import Chip8.Text.Bytes

/-!
# Words of a line

A line determines its words: they are the only row of pieces without the separator that gives the
line when joined by it. A word that ends in a given byte loses one such byte, and no other word
loses anything.
-/

namespace Chip8.Bytes

variable {separator : UInt8} {piece : Bytes}

theorem splitOn_of_not_mem (hpiece : separator ∉ piece) : splitOn separator piece = [piece] := by
  induction piece with
  | nil => rfl
  | cons b rest ih =>
    have hb : separator ≠ b := List.ne_of_not_mem_cons hpiece
    have hrest : separator ∉ rest := List.not_mem_of_not_mem_cons hpiece
    rw [splitOn, if_neg hb.symm, ih hrest]

/-- A text comes apart at every separator, so also at one between two texts. -/
theorem splitOn_append_separator (s t : Bytes) :
    splitOn separator (s ++ separator :: t) = splitOn separator s ++ splitOn separator t := by
  induction s with
  | nil => simp [splitOn]
  | cons b rest ih =>
    by_cases hb : b = separator
    · simp only [List.cons_append, splitOn, if_pos hb, ih]
    · simp only [List.cons_append, splitOn, if_neg hb, ih]
      cases hsplit : splitOn separator rest with
      | nil => exact absurd hsplit (splitOn_ne_nil separator rest)
      | cons first pieces => rfl

theorem splitOn_append_cons (hpiece : separator ∉ piece) (t : Bytes) :
    splitOn separator (piece ++ separator :: t) = piece :: splitOn separator t := by
  rw [splitOn_append_separator, splitOn_of_not_mem hpiece, List.singleton_append]

/-- A piece without a separator behind a text only makes the last piece of that longer. -/
theorem splitOn_append (hpiece : separator ∉ piece) (t : Bytes) :
    ∃ front last, splitOn separator t = front ++ [last] ∧ splitOn separator (t ++ piece) = front ++ [last ++ piece] := by
  induction t with
  | nil => exact ⟨[], [], rfl, splitOn_of_not_mem hpiece⟩
  | cons b t ih =>
    obtain ⟨front, last, ht, hboth⟩ := ih
    simp only [List.cons_append, splitOn, ht, hboth]
    by_cases hb : b = separator
    · exact ⟨[] :: front, last, by simp [hb], by simp [hb]⟩
    · cases front with
      | nil => exact ⟨[], b :: last, by simp [hb], by simp [hb]⟩
      | cons first front => exact ⟨(b :: first) :: front, last, by simp [hb], by simp [hb]⟩

/-- Joined texts come apart where they were joined, and where they come apart themselves. -/
theorem splitOn_join_eq_flatMap {texts : List Bytes} (htexts : texts ≠ []) :
    splitOn separator (join [separator] texts) = texts.flatMap (splitOn separator) := by
  induction texts with
  | nil => exact absurd rfl htexts
  | cons t rest ih =>
    cases rest with
    | nil => rw [join, List.flatMap_singleton]
    | cons next more =>
      rw [join_cons_cons, List.append_assoc, List.singleton_append, splitOn_append_separator, ih (by simp),
        ← List.flatMap_cons]

theorem splitOn_join {pieces : List Bytes} (hpieces : pieces ≠ []) (hfree : ∀ p ∈ pieces, separator ∉ p) :
    splitOn separator (join [separator] pieces) = pieces := by
  have hwhole : ∀ p ∈ pieces, splitOn separator p = [p] := fun p hp => splitOn_of_not_mem (hfree p hp)
  rw [splitOn_join_eq_flatMap hpieces, List.flatMap_def, List.map_congr_left hwhole, ← List.flatMap_def,
    List.flatMap_singleton']

theorem suffix_join (separator : Bytes) (front : List Bytes) (last : Bytes) :
    last <:+ join separator (front ++ [last]) := by
  induction front with
  | nil => exact List.suffix_refl last
  | cons piece front ih =>
    rw [List.cons_append, join_cons _ _ (by simp)]
    exact ih.trans (List.suffix_append _ _)

theorem splitOn_eq_iff {t : Bytes} {pieces : List Bytes} :
    splitOn separator t = pieces ↔
      pieces ≠ [] ∧ t = join [separator] pieces ∧ ∀ p ∈ pieces, separator ∉ p := by
  constructor
  · rintro rfl
    exact ⟨splitOn_ne_nil separator t, (join_splitOn separator t).symm, not_mem_of_mem_splitOn separator t⟩
  · rintro ⟨hpieces, rfl, hfree⟩
    exact splitOn_join hpieces hfree

theorem mem_join {separator : Bytes} {pieces : List Bytes} {b : UInt8} (h : b ∈ join separator pieces) :
    b ∈ separator ∨ ∃ piece ∈ pieces, b ∈ piece := by
  induction pieces with
  | nil => cases h
  | cons piece rest ih =>
    by_cases hrest : rest = []
    · subst hrest
      exact .inr ⟨piece, List.mem_cons_self, h⟩
    · rw [join_cons _ _ hrest, List.append_assoc] at h
      rcases List.mem_append.1 h with hpiece | h
      · exact .inr ⟨piece, List.mem_cons_self, hpiece⟩
      rcases List.mem_append.1 h with hseparator | h
      · exact .inl hseparator
      · obtain hseparator | ⟨next, hnext, hb⟩ := ih h
        · exact .inl hseparator
        · exact .inr ⟨next, List.mem_cons_of_mem piece hnext, hb⟩

/-- The word without one final `b`, if it ends so. -/
def Trimmed (b : UInt8) (word t : Bytes) : Prop := word = t ++ [b] ∨ (word = t ∧ ¬∃ s, word = s ++ [b])

theorem dropFinal_eq_iff {b : UInt8} {word t : Bytes} : dropFinal b word = t ↔ Trimmed b word t := by
  have hlast : word.getLast? = some b ↔ ∃ s, word = s ++ [b] := by
    rw [List.getLast?_eq_some_iff]
  unfold dropFinal Trimmed
  split
  · next h =>
    obtain ⟨s, rfl⟩ := hlast.1 h
    simp
  · next h =>
    have hends : ∀ s, word ≠ s ++ [b] := fun s hs => h (hlast.2 ⟨s, hs⟩)
    simp [hends]

theorem dropFinal_of_getLast?_ne {b : UInt8} {t : Bytes} (h : t.getLast? ≠ some b) : dropFinal b t = t := by
  unfold dropFinal
  rw [if_neg h]

theorem dropFinal_of_not_mem {b : UInt8} {t : Bytes} (h : b ∉ t) : dropFinal b t = t :=
  dropFinal_of_getLast?_ne fun hlast => h (List.mem_of_getLast? hlast)

theorem dropFinal_append_singleton (b : UInt8) (t : Bytes) : dropFinal b (t ++ [b]) = t :=
  dropFinal_eq_iff.2 (.inl rfl)

/-- A final `b` that is dropped from each piece may as well not be there. -/
theorem map_dropFinal_splitOn_append {b : UInt8} (hb : b ≠ separator) {t : Bytes} (ht : t.getLast? ≠ some b) :
    (splitOn separator (t ++ [b])).map (dropFinal b) = (splitOn separator t).map (dropFinal b) := by
  have hfree : separator ∉ [b] := by simpa using hb.symm
  obtain ⟨front, last, hsplit, hboth⟩ := splitOn_append hfree t
  have hlast : last.getLast? ≠ some b := by
    intro hends
    obtain ⟨s, hs⟩ : last <:+ t := by
      rw [← join_splitOn separator t, hsplit]
      exact suffix_join _ front last
    rw [← hs, List.getLast?_append, hends] at ht
    exact ht rfl
  rw [hsplit, hboth, List.map_append, List.map_append, List.map_singleton, List.map_singleton,
    dropFinal_append_singleton, dropFinal_of_getLast?_ne hlast]

end Chip8.Bytes
