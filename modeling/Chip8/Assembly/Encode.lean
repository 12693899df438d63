import Chip8.Assembly.Statement

/-!
Encoding one line. Reading a line looks up words, operands and bytes by position, and each look-up
could in principle miss; the statements here show that none does, whatever bytes the line holds. So
a line always has a reading, which is an instruction or an error, and encoding it is a total
function.

The argument goes through `Answers`: a step answers if it does not look past an end. A chain of
steps answers if each does, every operand reader checks a length before it looks, and the fewest
operands of each mnemonic cover every operand its forms look at.
-/

namespace Chip8

def Reading.Answers {α : Type} (r : Reading α) : Prop := r.run.isSome

namespace Reading

theorem answers_pure {α : Type} (a : α) : Answers (pure a : Reading α) := rfl

theorem answers_throw {α : Type} (e : AsmError) : Answers (throw e : Reading α) := rfl

theorem answers_lookup_iff {α : Type} (value : Option α) : Answers (value : Reading α) ↔ value.isSome := by
  cases value with
  | none => exact Iff.rfl
  | some a => exact Iff.rfl

theorem answers_bind {α β : Type} {r : Reading α} {f : α → Reading β} (hr : r.Answers)
    (hf : ∀ a, (f a).Answers) : (r >>= f).Answers := by
  unfold Answers at *
  obtain ⟨result, h⟩ := Option.isSome_iff_exists.1 hr
  rw [ExceptT.run_bind, h]
  cases result with
  | error e => rfl
  | ok a => simpa using hf a

theorem answers_ite {α : Type} {c : Prop} [Decidable c] {t e : Reading α} (ht : c → t.Answers)
    (he : ¬c → e.Answers) : (if c then t else e).Answers := by
  split
  · next h => exact ht h
  · next h => exact he h

end Reading

open Reading

namespace Operand

theorem answers_byteAt_iff {op : Bytes} {i : Nat} : (byteAt op i).Answers ↔ i < op.length := by
  simp [byteAt, answers_lookup_iff]

theorem answers_afterFirst_iff {op : Bytes} : (afterFirst op).Answers ↔ 1 ≤ op.length := by
  cases op with
  | nil => exact iff_of_false Bool.false_ne_true (Nat.not_succ_le_zero 0)
  | cons b rest => exact iff_of_true rfl (Nat.succ_pos rest.length)

theorem answers_lead? (op : Bytes) : (lead? op).Answers :=
  answers_ite (fun h => answers_bind (answers_byteAt_iff.2 h) fun _ => answers_pure _) fun _ => answers_pure _

theorem answers_hexBelow {α : Type} (value : Option Nat) (make : Nat → α) (e : AsmError) :
    Answers (match value with
      | some n => pure (make n)
      | none => throw e) := by
  cases value <;> rfl

theorem answers_register (mnemonic op : Bytes) : (register mnemonic op).Answers :=
  answers_ite (fun _ => answers_throw _) fun h =>
    answers_bind (answers_afterFirst_iff.2 (by omega)) fun _ => answers_hexBelow _ _ _

theorem answers_hexByte (mnemonic op : Bytes) : (hexByte mnemonic op).Answers :=
  answers_hexBelow _ _ _

theorem answers_byte (mnemonic op : Bytes) : (byte mnemonic op).Answers := by
  refine answers_bind (answers_lead? op) fun lead => ?_
  cases lead with
  | none => exact answers_throw _
  | some _ => exact answers_hexByte mnemonic op

theorem answers_nibble (mnemonic op : Bytes) : (nibble mnemonic op).Answers :=
  answers_ite (fun _ => answers_throw _) fun _ => answers_hexBelow _ _ _

theorem answers_address (mnemonic op : Bytes) : (address mnemonic op).Answers := by
  cases op with
  | nil => exact answers_throw _
  | cons b rest =>
    refine answers_bind (answers_lead? _) fun lead => ?_
    cases lead with
    | none => exact answers_throw _
    | some page => exact answers_bind (answers_afterFirst_iff.2 (by simp)) fun _ => answers_hexBelow _ _ _

end Operand

namespace Mnemonic

theorem answers_operandAt_iff {operands : List Bytes} {i : Nat} :
    (operandAt operands i).Answers ↔ i < operands.length := by
  simp [operandAt, answers_lookup_iff]

theorem answers_readPair (name : Bytes) {operands : List Bytes} (make : Register → Register → Instruction)
    (h : 2 ≤ operands.length) : (readPair name operands make).Answers :=
  answers_bind (answers_operandAt_iff.2 (by omega)) fun _ => answers_bind (Operand.answers_register _ _) fun _ =>
  answers_bind (answers_operandAt_iff.2 (by omega)) fun _ => answers_bind (Operand.answers_register _ _) fun _ =>
  answers_pure _

theorem answers_readJump (name : Bytes) {operands : List Bytes} (h : 1 ≤ operands.length) :
    (readJump name operands).Answers :=
  answers_bind (answers_operandAt_iff.2 (by omega)) fun _ =>
  answers_ite (fun _ => answers_bind (Operand.answers_address _ _) fun _ => answers_pure _) fun _ =>
  answers_ite (fun _ => answers_throw _) fun _ =>
  answers_bind (answers_operandAt_iff.2 (by omega)) fun _ =>
  answers_bind (Operand.answers_address _ _) fun _ => answers_pure _

theorem answers_readSkip (name : Bytes) {operands : List Bytes} (h : 2 ≤ operands.length) :
    (readSkip name operands).Answers := by
  refine answers_bind (answers_operandAt_iff.2 (by omega)) fun _ =>
    answers_bind (Operand.answers_register _ _) fun _ => answers_bind (answers_operandAt_iff.2 (by omega)) fun second =>
    answers_ite (fun _ => answers_bind (Operand.answers_register _ _) fun _ => answers_pure _) fun _ =>
    answers_bind (Operand.answers_lead? second) fun lead => ?_
  cases lead with
  | none => exact answers_throw _
  | some _ => exact answers_bind (Operand.answers_byte _ _) fun _ => answers_pure _

theorem answers_readLoadInto (name : Bytes) (x : Register) (second : Bytes) :
    (readLoadInto name x second).Answers := by
  unfold readLoadInto
  cases specialSource? second with
  | some make => exact answers_pure _
  | none =>
    refine answers_ite (fun _ => answers_bind (Operand.answers_register _ _) fun _ => answers_pure _) fun _ =>
      answers_bind (Operand.answers_lead? second) fun lead => ?_
    cases lead with
    | none => exact answers_throw _
    | some _ => exact answers_bind (Operand.answers_byte _ _) fun _ => answers_pure _

theorem answers_readLoad (name : Bytes) {operands : List Bytes} (h : 2 ≤ operands.length) :
    (readLoad name operands).Answers := by
  refine answers_bind (answers_operandAt_iff.2 (by omega)) fun first =>
    answers_bind (answers_operandAt_iff.2 (by omega)) fun second =>
    answers_ite (fun _ => answers_bind (Operand.answers_register _ _) fun x => answers_readLoadInto name x second)
      fun _ => answers_ite (fun _ => answers_bind (Operand.answers_address _ _) fun _ => answers_pure _) fun _ => ?_
  cases specialTarget? first with
  | none => exact answers_throw _
  | some make => exact answers_bind (Operand.answers_register _ _) fun _ => answers_pure _

theorem answers_readAdd (name : Bytes) {operands : List Bytes} (h : 2 ≤ operands.length) :
    (readAdd name operands).Answers :=
  answers_bind (answers_operandAt_iff.2 (by omega)) fun _ =>
  answers_bind (answers_operandAt_iff.2 (by omega)) fun _ =>
  answers_ite (fun _ => answers_bind (Operand.answers_register _ _) fun _ => answers_pure _) fun _ =>
  answers_ite (fun _ => answers_throw _) fun _ =>
  answers_bind (Operand.answers_register _ _) fun _ =>
  answers_ite (fun _ => answers_bind (Operand.answers_register _ _) fun _ => answers_pure _) fun _ =>
  answers_bind (Operand.answers_hexByte _ _) fun _ => answers_pure _

theorem answers_readRandom (name : Bytes) {operands : List Bytes} (h : 2 ≤ operands.length) :
    (readRandom name operands).Answers :=
  answers_bind (answers_operandAt_iff.2 (by omega)) fun _ => answers_bind (Operand.answers_register _ _) fun _ =>
  answers_bind (answers_operandAt_iff.2 (by omega)) fun _ => answers_bind (Operand.answers_hexByte _ _) fun _ =>
  answers_pure _

theorem answers_readDraw (name : Bytes) {operands : List Bytes} (h : 3 ≤ operands.length) :
    (readDraw name operands).Answers :=
  answers_bind (answers_operandAt_iff.2 (by omega)) fun _ => answers_bind (Operand.answers_register _ _) fun _ =>
  answers_bind (answers_operandAt_iff.2 (by omega)) fun _ => answers_bind (Operand.answers_register _ _) fun _ =>
  answers_bind (answers_operandAt_iff.2 (by omega)) fun _ => answers_bind (Operand.answers_nibble _ _) fun _ =>
  answers_pure _

theorem answers_first {operands : List Bytes} (read : Bytes → Reading Instruction)
    (hread : ∀ op, (read op).Answers) (h : 1 ≤ operands.length) :
    (operandAt operands 0 >>= read).Answers :=
  answers_bind (answers_operandAt_iff.2 (by omega)) hread

/-- The fewest operands of a mnemonic cover every operand that its forms look at. -/
theorem answers_select (m : Mnemonic) {operands : List Bytes} (h : m.arity ≤ operands.length) :
    (m.select operands).Answers := by
  cases m with
  | nop | cls | ret => exact answers_pure _
  | jp => exact answers_readJump _ h
  | call => exact answers_first _ (fun _ => answers_bind (Operand.answers_address _ _) fun _ => answers_pure _) h
  | se => exact answers_readSkip _ h
  | ld => exact answers_readLoad _ h
  | add => exact answers_readAdd _ h
  | or | and | xor | sub | shr | subn | shl | sne => exact answers_readPair _ _ h
  | rnd => exact answers_readRandom _ h
  | drw => exact answers_readDraw _ h
  | skp | sknp =>
    exact answers_first _ (fun _ => answers_bind (Operand.answers_register _ _) fun _ => answers_pure _) h

end Mnemonic

namespace Statement

theorem answers_read (s : Statement) : s.read.Answers := by
  unfold read
  cases Mnemonic.ofName? s.mnemonic with
  | none => exact answers_throw _
  | some m => exact answers_ite (fun _ => answers_throw _) fun h => m.answers_select (by omega)

theorem isSome_ofLine? (line : Bytes) : (ofLine? line).isSome := by
  unfold ofLine?
  split
  · next h => exact absurd h (Bytes.splitOn_ne_nil _ _)
  · rfl

end Statement

/-- The instruction or the error of a line, or nothing if reading it looked past an end. -/
def reading? (line : Bytes) : Option (Except AsmError Instruction) :=
  (Statement.ofLine? line).bind fun s => s.read.run

theorem isSome_reading? (line : Bytes) : (reading? line).isSome := by
  obtain ⟨s, h⟩ := Option.isSome_iff_exists.1 (Statement.isSome_ofLine? line)
  rw [reading?, h]
  exact s.answers_read

def reading (line : Bytes) : Except AsmError Instruction := (reading? line).get (isSome_reading? line)

/-- The word that encodes a line, or why there is none. -/
def encode (line : Bytes) : Except AsmError Opcode := (reading line).map Instruction.opcode

theorem some_reading (line : Bytes) : some (reading line) = reading? line := Option.some_get _

end Chip8
