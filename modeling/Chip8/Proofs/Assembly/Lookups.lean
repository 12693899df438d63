import Chip8.Proofs.Assembly.ExtraOperands

/-!
# Look-ups in a statement

Encoding a line looks things up by position: the words of the line, the operands of a statement, the bytes of an
operand. Each of these look-ups can miss, and does so just if the position is not there; a miss would be passed on
to the end, so a step that answers has made none.

No line makes one miss. The words of a line are never none, every reader of an operand looks at its length first,
and the fewest operands that a mnemonic accepts are enough for every branch of its forms, whatever the operands
hold. They are also needed: with one operand less there are operands, all of them registers, at which a form would
look past the last (`encoding_misses_no_lookup`).
-/

namespace Chip8

open Reading

namespace Operand

/-- All readers of an operand answer. -/
structure ReadersAnswer (mnemonic op : Bytes) : Prop where
  lead : (lead? op).Answers
  register : (register mnemonic op).Answers
  hexByte : (hexByte mnemonic op).Answers
  byte : (byte mnemonic op).Answers
  nibble : (nibble mnemonic op).Answers
  address : (address mnemonic op).Answers

theorem readersAnswer (mnemonic op : Bytes) : ReadersAnswer mnemonic op where
  lead := answers_lead? op
  register := answers_register mnemonic op
  hexByte := answers_hexByte mnemonic op
  byte := answers_byte mnemonic op
  nibble := answers_nibble mnemonic op
  address := answers_address mnemonic op

end Operand

namespace Mnemonic

/-- Registers satisfy a form up to the operand that it lacks. -/
theorem not_answers_select {m : Mnemonic} {n : Nat} (h : n < m.arity) :
    ¬(m.select (List.replicate n (text "V0"))).Answers := by
  have hall : ∀ m ∈ all, ∀ n < m.arity, (m.select (List.replicate n (text "V0"))).run = none := by decide
  rw [Answers, hall m (mem_all m) n h]
  exact Bool.false_ne_true

/-- A number of operands is enough for every form of a mnemonic just if the mnemonic accepts it. -/
theorem answers_select_iff {m : Mnemonic} {n : Nat} :
    (∀ operands : List Bytes, operands.length = n → (m.select operands).Answers) ↔ m.arity ≤ n := by
  constructor
  · intro hanswers
    apply Nat.le_of_not_lt
    intro hlacks
    exact not_answers_select hlacks (hanswers _ List.length_replicate)
  · intro henough operands hlength
    apply answers_select
    omega

end Mnemonic

theorem Statement.exists_run_read (line : Bytes) : ∃ s result, Statement.ofLine? line = some s ∧
    s.read.run = some result ∧ encode line = result.map Instruction.opcode := by
  obtain ⟨s, hline⟩ := Option.isSome_iff_exists.1 (Statement.isSome_ofLine? line)
  obtain ⟨result, hread⟩ := Option.isSome_iff_exists.1 s.answers_read
  exact ⟨s, result, hline, hread, encode_eq_map_of_run hline hread⟩

/-- Whatever bytes a line holds, its words, its operands and their bytes are looked up only where they are. Each
kind of look-up misses past the end, the operands a mnemonic asks for are those its forms need, and the readers of
operands answer for every operand, the empty one included. -/
theorem encoding_misses_no_lookup :
    (∀ line, ∃ s result, Statement.ofLine? line = some s ∧ s.read.run = some result ∧
        encode line = result.map Instruction.opcode) ∧
      (∀ (m : Mnemonic) (n : Nat),
        (∀ operands : List Bytes, operands.length = n → (m.select operands).Answers) ↔ m.arity ≤ n) ∧
      (∀ mnemonic op, Operand.ReadersAnswer mnemonic op) ∧
      (∀ operands i, (Mnemonic.operandAt operands i).Answers ↔ i < operands.length) ∧
      (∀ op i, (Operand.byteAt op i).Answers ↔ i < op.length) ∧
      ∀ op, (Operand.afterFirst op).Answers ↔ 1 ≤ op.length := by
  refine ⟨Statement.exists_run_read, ?_, Operand.readersAnswer, ?_, ?_, ?_⟩
  · intro m n
    exact Mnemonic.answers_select_iff
  · intro operands i
    exact Mnemonic.answers_operandAt_iff
  · intro op i
    exact Operand.answers_byteAt_iff
  · intro op
    exact Operand.answers_afterFirst_iff

/-- A jump with a blank at its end has an empty second operand and looks at it, although one operand is enough. -/
theorem encoding_misses_no_lookup_blank_at_end :
    Statement.ofLine? (text "jp V0 ") = some ⟨text "jp", [text "V0", []]⟩ ∧
      (Mnemonic.jp.select [text "V0", []]).Answers ∧
      ∃ result, (Statement.read ⟨text "jp", [text "V0", []]⟩).run = some result ∧
        encode (text "jp V0 ") = result.map Instruction.opcode := by
  have hline : Statement.ofLine? (text "jp V0 ") = some ⟨text "jp", [text "V0", []]⟩ := by decide
  obtain ⟨hlines, hselect, -⟩ := encoding_misses_no_lookup
  obtain ⟨s, result, hs, hread, hencode⟩ := hlines (text "jp V0 ")
  obtain rfl : _ = s := Option.some.inj (hline.symm.trans hs)
  exact ⟨hline, (hselect .jp 2).2 (by decide) _ rfl, result, hread, hencode⟩

end Chip8
