import Chip8.Assembly.Source
import Chip8.Proofs.Text.Words

/-!
# The lines of a source

A source begins with a line exactly where a newline ends one, so its lines can be taken off one by one
(`ofText_append_newline`). Lines that hold no newline and do not end in a carriage return come back as
they were written.
-/

namespace Chip8.Source

/-- The line can be written on a line of its own and is read back as it is. -/
structure Plain (line : Bytes) : Prop where
  no_newline : 0x0A ∉ line
  no_return : line.getLast? ≠ some 0x0D

instance (line : Bytes) : Decidable (Plain line) :=
  decidable_of_iff (0x0A ∉ line ∧ line.getLast? ≠ some 0x0D) ⟨fun h => ⟨h.1, h.2⟩, fun h => ⟨h.1, h.2⟩⟩

theorem ofText_append_newline {line : Bytes} (hline : 0x0A ∉ line) (t : Bytes) :
    ofText (line ++ 0x0A :: t) = ⟨lineOf line :: (ofText t).lines, (ofText t).rest⟩ := by
  have hsplit : Bytes.splitOn 0x0A (line ++ 0x0A :: t) = line :: Bytes.splitOn 0x0A t :=
    Bytes.splitOn_append_cons hline t
  have hne : Bytes.splitOn 0x0A t ≠ [] := Bytes.splitOn_ne_nil 0x0A t
  simp only [ofText, hsplit, List.dropLast_cons_of_ne_nil hne, List.map_cons, List.getLast_cons hne]

theorem Plain.lineOf_eq {line : Bytes} (hline : Plain line) : lineOf line = line :=
  if_neg hline.no_return

theorem ofText_terminated {lines : List Bytes} (hlines : ∀ line ∈ lines, Plain line) :
    ofText (lines.flatMap fun line => line ++ [0x0A]) = ⟨lines, []⟩ := by
  induction lines with
  | nil => rfl
  | cons line rest ih =>
    have hline : Plain line := hlines line List.mem_cons_self
    have hrest := ih fun l hl => hlines l (List.mem_cons_of_mem line hl)
    rw [List.flatMap_cons, List.append_assoc, List.singleton_append, ofText_append_newline hline.no_newline, hrest,
      hline.lineOf_eq]

end Chip8.Source
