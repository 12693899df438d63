import Chip8.Assembly.Build
import Chip8.Proofs.Assembly.SourceLines
import Mathlib.Data.List.Infix

/-!
# Line ends

A line may end in a newline or in a carriage return and a newline, and what follows the last newline is
no line. Reading a source forgets which of the two ended a line and nothing else: the lines, each with a
newline behind it, and the rest are the text with its returns before newlines taken out
(`withNewlines_ofText`), and lines that were written with either end come back as they were
(`ofText_written`).

All of it goes along the lines of a text: a text has no newline, or it is a line, a newline and a text
(`line_induction`).
-/

namespace Chip8.Source

inductive LineEnd where
  | newline
  | returnNewline
  deriving DecidableEq, Repr

def LineEnd.bytes : LineEnd → Bytes
  | newline => [0x0A]
  | returnNewline => [0x0D, 0x0A]

/-- The text of lines, each with its own end, and of what follows the last of them. -/
def written (lines : List (Bytes × LineEnd)) (rest : Bytes) : Bytes :=
  (lines.flatMap fun line => line.1 ++ line.2.bytes) ++ rest

def withNewlines (s : Source) : Bytes := (s.lines.flatMap fun line => line ++ [0x0A]) ++ s.rest

/-- The text with a newline for every carriage return and newline. -/
def unreturned : Bytes → Bytes
  | [] => []
  | [b] => [b]
  | b :: next :: t => if b = 0x0D ∧ next = 0x0A then 0x0A :: unreturned t else b :: unreturned (next :: t)

/-- The text with a carriage return and a newline for every newline. -/
def returned (t : Bytes) : Bytes := t.flatMap fun b => if b = 0x0A then [0x0D, 0x0A] else [b]

/-- A text is what follows its last newline, or a line, a newline and a text. -/
@[elab_as_elim]
theorem line_induction {motive : Bytes → Prop} (t : Bytes) (rest : ∀ rest, 0x0A ∉ rest → motive rest)
    (line : ∀ line t, 0x0A ∉ line → motive t → motive (line ++ 0x0A :: t)) : motive t := by
  induction hlength : t.length using Nat.strong_induction_on generalizing t with
  | _ n ih =>
    by_cases hmem : 0x0A ∈ t
    · obtain ⟨first, later, rfl, hfirst⟩ := List.eq_append_cons_of_mem hmem
      refine line first later hfirst (ih later.length ?_ later rfl)
      rw [← hlength, List.length_append, List.length_cons]
      omega
    · exact rest t hmem

theorem ofText_of_not_mem {t : Bytes} (h : 0x0A ∉ t) : ofText t = ⟨[], t⟩ := by
  simp [ofText, Bytes.splitOn_of_not_mem h]

@[simp] theorem lineOf_append_return (line : Bytes) : lineOf (line ++ [0x0D]) = line := by
  simp [lineOf, Bytes.dropFinal]

theorem lineOf_cons_cons (b next : UInt8) (line : Bytes) :
    lineOf (b :: next :: line) = b :: lineOf (next :: line) := by
  simp only [lineOf, Bytes.dropFinal, List.getLast?_cons_cons, List.dropLast_cons_cons]
  split <;> rfl

theorem not_mem_lineOf {line : Bytes} (h : 0x0A ∉ line) : 0x0A ∉ lineOf line := by
  unfold lineOf Bytes.dropFinal
  split
  · exact fun hmem => h (List.dropLast_subset line hmem)
  · exact h

/-! ### Taking out returns, and putting them in -/

theorem unreturned_cons {b : UInt8} (h : b ≠ 0x0D) (t : Bytes) : unreturned (b :: t) = b :: unreturned t := by
  cases t with
  | nil => rfl
  | cons next t => rw [unreturned, if_neg fun hb => h hb.1]

theorem unreturned_of_not_mem {t : Bytes} (h : 0x0A ∉ t) : unreturned t = t := by
  induction t with
  | nil => rfl
  | cons b t ih =>
    have ht : unreturned t = t := ih (List.not_mem_of_not_mem_cons h)
    cases t with
    | nil => rfl
    | cons next t =>
      have hnext : next ≠ 0x0A := fun hn => h (by simp [hn])
      rw [unreturned, if_neg fun hb => hnext hb.2, ht]

theorem unreturned_append_newline {line : Bytes} (hline : 0x0A ∉ line) (t : Bytes) :
    unreturned (line ++ 0x0A :: t) = lineOf line ++ 0x0A :: unreturned t := by
  induction line with
  | nil => exact unreturned_cons (by decide) t
  | cons b line ih =>
    have htail := ih (List.not_mem_of_not_mem_cons hline)
    cases line with
    | nil =>
      by_cases hb : b = 0x0D
      · subst hb
        rfl
      · rw [List.cons_append, unreturned_cons hb, htail]
        simp [lineOf, Bytes.dropFinal, hb]
    | cons next line =>
      have hnext : next ≠ 0x0A := fun hn => hline (by simp [hn])
      rw [List.cons_append] at htail
      rw [List.cons_append, List.cons_append, unreturned, if_neg fun hb => hnext hb.2, htail, lineOf_cons_cons,
        List.cons_append]

theorem returned_of_not_mem {t : Bytes} (h : 0x0A ∉ t) : returned t = t := by
  induction t with
  | nil => rfl
  | cons b t ih =>
    have hb : b ≠ 0x0A := fun hb => h (by simp [hb])
    have ht : returned t = t := ih (List.not_mem_of_not_mem_cons h)
    simp only [returned, List.flatMap_cons, if_neg hb] at ht ⊢
    rw [ht, List.singleton_append]

theorem returned_append_newline {line : Bytes} (hline : 0x0A ∉ line) (t : Bytes) :
    returned (line ++ 0x0A :: t) = (line ++ [0x0D]) ++ 0x0A :: returned t := by
  have hsame : returned line = line := returned_of_not_mem hline
  simp only [returned] at hsame ⊢
  rw [List.flatMap_append, hsame, List.flatMap_cons]
  simp

/-! ### Reading and writing -/

theorem withNewlines_ofText (t : Bytes) : withNewlines (ofText t) = unreturned t := by
  induction t using line_induction with
  | rest rest hrest => rw [ofText_of_not_mem hrest, unreturned_of_not_mem hrest, withNewlines, List.flatMap_nil,
      List.nil_append]
  | line line t hline ih =>
    rw [ofText_append_newline hline, unreturned_append_newline hline, ← ih]
    simp [withNewlines]

theorem length_lines_ofText (t : Bytes) : (ofText t).lines.length = t.count 0x0A := by
  induction t using line_induction with
  | rest rest hrest => rw [ofText_of_not_mem hrest, List.count_eq_zero_of_not_mem hrest, List.length_nil]
  | line line t hline ih =>
    rw [ofText_append_newline hline, List.length_cons, ih, List.count_append, List.count_cons_self,
      List.count_eq_zero_of_not_mem hline, Nat.zero_add]

theorem no_newline_ofText (t : Bytes) : (∀ line ∈ (ofText t).lines, 0x0A ∉ line) ∧ 0x0A ∉ (ofText t).rest := by
  induction t using line_induction with
  | rest rest hrest =>
    rw [ofText_of_not_mem hrest]
    exact ⟨by simp, hrest⟩
  | line line t hline ih =>
    rw [ofText_append_newline hline]
    exact ⟨List.forall_mem_cons.2 ⟨not_mem_lineOf hline, ih.1⟩, ih.2⟩

theorem ofText_line_end {line : Bytes} (hline : Plain line) (lineEnd : LineEnd) (t : Bytes) :
    ofText (line ++ lineEnd.bytes ++ t) = ⟨line :: (ofText t).lines, (ofText t).rest⟩ := by
  cases lineEnd with
  | newline =>
    rw [LineEnd.bytes, List.append_assoc, List.singleton_append, ofText_append_newline hline.no_newline,
      hline.lineOf_eq]
  | returnNewline =>
    have hreturn : 0x0A ∉ line ++ [0x0D] := by simp [hline.no_newline]
    have hsplit : line ++ LineEnd.returnNewline.bytes ++ t = (line ++ [0x0D]) ++ 0x0A :: t := by
      simp [LineEnd.bytes]
    rw [hsplit, ofText_append_newline hreturn, lineOf_append_return]

theorem ofText_written {lines : List (Bytes × LineEnd)} {rest : Bytes} (hlines : ∀ line ∈ lines, Plain line.1)
    (hrest : 0x0A ∉ rest) : ofText (written lines rest) = ⟨lines.map Prod.fst, rest⟩ := by
  induction lines with
  | nil => exact ofText_of_not_mem hrest
  | cons line lines ih =>
    have hline : Plain line.1 := hlines line List.mem_cons_self
    have hcons : written (line :: lines) rest = line.1 ++ line.2.bytes ++ written lines rest := by simp [written]
    rw [hcons, ofText_line_end hline, ih fun l hl => hlines l (List.mem_cons_of_mem line hl), List.map_cons]

/-- A line that ends in a carriage return is followed by one that stands before a newline. -/
theorem infix_of_return {line : Bytes} (hreturn : line.getLast? = some 0x0D) (t : Bytes) :
    [0x0D, 0x0A] <:+: line ++ 0x0A :: t := by
  obtain ⟨before, rfl⟩ := List.getLast?_eq_some_iff.1 hreturn
  exact ⟨before, t, by simp⟩

theorem ofText_returned {t : Bytes} (h : ¬[0x0D, 0x0A] <:+: t) : ofText (returned t) = ofText t := by
  induction t using line_induction with
  | rest rest hrest => rw [returned_of_not_mem hrest]
  | line line t hline ih =>
    have hplain : Plain line := ⟨hline, fun hreturn => h (infix_of_return hreturn t)⟩
    have hlater : ¬[0x0D, 0x0A] <:+: t := fun hpair => h (hpair.trans ⟨line ++ [0x0A], [], by simp⟩)
    have hreturn : 0x0A ∉ line ++ [0x0D] := by simp [hline]
    rw [returned_append_newline hline, ofText_append_newline hreturn, ofText_append_newline hline, ih hlater,
      lineOf_append_return, hplain.lineOf_eq]

theorem ofText_append_rest {t : Bytes} (ht : t = [] ∨ t.getLast? = some 0x0A) {rest : Bytes} (hrest : 0x0A ∉ rest) :
    ofText (t ++ rest) = ⟨(ofText t).lines, rest⟩ := by
  induction t using line_induction with
  | rest last hlast =>
    have hnil : last = [] := by
      obtain rfl | hends := ht
      · rfl
      · exact absurd (List.mem_of_getLast? hends) hlast
    subst hnil
    rw [List.nil_append, ofText_of_not_mem hrest, ofText_of_not_mem hlast]
  | line line t hline ih =>
    have hends : t = [] ∨ t.getLast? = some 0x0A := by
      by_cases hnil : t = []
      · exact .inl hnil
      · rw [List.getLast?_append_cons, List.getLast?_cons_of_ne_nil hnil] at ht
        exact .inr (ht.resolve_left (by simp))
    rw [List.append_assoc, List.cons_append, ofText_append_newline hline, ofText_append_newline hline, ih hends]

/-- Reading a source and writing it are inverse to each other, up to the carriage returns at line ends. What
is read, written with newlines, is the text without these; it has a line for each newline and no newline
inside. What was written with any choice of line ends is read as it was. So neither the lines nor what is
built from them depend on the line ends or on what follows the last newline. -/
theorem reading_inverts_writing :
    (∀ t, withNewlines (ofText t) = unreturned t ∧ (ofText t).lines.length = t.count 0x0A ∧
        (∀ line ∈ (ofText t).lines, 0x0A ∉ line) ∧ 0x0A ∉ (ofText t).rest) ∧
      (∀ lines rest, (∀ line ∈ lines, Plain line.1) → 0x0A ∉ rest →
        ofText (written lines rest) = ⟨lines.map Prod.fst, rest⟩) ∧
      (∀ t, ¬[0x0D, 0x0A] <:+: t → (ofText (returned t)).lines = (ofText t).lines ∧
        build (ofText (returned t)).lines = build (ofText t).lines) ∧
      ∀ t rest rest', (t = [] ∨ t.getLast? = some 0x0A) → 0x0A ∉ rest → 0x0A ∉ rest' →
        (ofText (t ++ rest')).lines = (ofText (t ++ rest)).lines ∧
          build (ofText (t ++ rest')).lines = build (ofText (t ++ rest)).lines := by
  refine ⟨fun t => ⟨withNewlines_ofText t, length_lines_ofText t, no_newline_ofText t⟩,
    fun _ _ => ofText_written, fun t ht => ?_, fun t rest rest' ht hrest hrest' => ?_⟩
  · rw [ofText_returned ht]
    exact ⟨rfl, rfl⟩
  · rw [ofText_append_rest ht hrest, ofText_append_rest ht hrest']
    exact ⟨rfl, rfl⟩

/-- An empty line, a line whose end has a carriage return, and a carriage return in what follows. -/
theorem reading_inverts_writing_mixed_ends :
    let lines : List (Bytes × LineEnd) := [(text "cls", .returnNewline), ([], .newline)]
    let source := text "cls\n\nret\n"
    written lines (text "re\r") = text "cls\r\n\nre\r" ∧ (∀ line ∈ lines, Plain line.1) ∧
      0x0A ∉ text "re\r" ∧ ofText (written lines (text "re\r")) = ⟨[text "cls", []], text "re\r"⟩ ∧
      ¬[0x0D, 0x0A] <:+: source ∧ returned source = text "cls\r\n\r\nret\r\n" ∧
      (ofText (returned source)).lines = (ofText source).lines ∧
      (ofText (source ++ text "nop")).lines = (ofText (source ++ text "halt")).lines := by
  intro lines source
  have hlines : ∀ line ∈ lines, Plain line.1 := by decide
  have hrest : 0x0A ∉ text "re\r" := by decide
  have hsource : ¬[0x0D, 0x0A] <:+: source := by decide
  obtain ⟨-, hwritten, hreturned, happended⟩ := reading_inverts_writing
  exact ⟨by rfl, hlines, hrest, hwritten lines _ hlines hrest, hsource, by rfl, (hreturned source hsource).1,
    (happended source _ _ (.inr (by rfl)) (by decide) (by decide)).1⟩

end Chip8.Source
