import Chip8.Assembly.Error
import Chip8.Assembly.Instruction
import Chip8.Text.Quoted

/-!
Reading operands. An operand is a register, a byte, a nibble or an address, written in hexadecimal.
Only lower-case digits may lead a number where a letter could also name a special register, and
only they lead an address; behind the lead either case is accepted.

Every position of an operand, and every operand of a statement, is looked up in a way that can fail:
a `Reading` is either a value, an error for the user, or nothing at all, which would mean that a
position past the end was looked at.
-/

namespace Chip8

/-- A step of reading a statement. No result means that it looked past the end of something. -/
abbrev Reading := ExceptT AsmError Option

namespace Operand

def byteAt (op : Bytes) (i : Nat) : Reading UInt8 := (op[i]? : Option UInt8)

def afterFirst (op : Bytes) : Reading Bytes :=
  match op with
  | [] => (none : Option Bytes)
  | _ :: rest => pure rest

/-- Whether the operand is spelled like a register. It may still be none. -/
def isRegister (op : Bytes) : Bool := (text "V").isPrefixOf op

/-- The value of a lower-case hexadecimal digit. -/
def leadDigit? (b : UInt8) : Option (Fin 16) :=
  if 0x30 ≤ b ∧ b ≤ 0x39 then some (lastDigit (b.toNat - 0x30))
  else if 0x61 ≤ b ∧ b ≤ 0x66 then some (lastDigit (b.toNat - 0x57))
  else none

/-- The lower-case digit an operand starts with, if it starts with one. -/
def lead? (op : Bytes) : Reading (Option (Fin 16)) :=
  if op.length > 0 then do
    let b ← byteAt op 0
    pure (leadDigit? b)
  else pure none

/-- The value of hexadecimal digits of either case, of any length, if it is below `bound`. -/
def hexBelow? (bound : Nat) (t : Bytes) : Option Nat :=
  (Numeral.digitsValue? 16 t).filter (· < bound)

/-- An error that quotes the operand it is about after some words. -/
def found (kind : Kind) (mnemonic : Bytes) (words : String) (op : Bytes) : AsmError :=
  ⟨kind, op, mnemonic ++ text ": " ++ text words ++ Quoted.string op⟩

/-- An error that says what the quoted operand is not. -/
def isNot (kind : Kind) (mnemonic : Bytes) (words : String) (op : Bytes) : AsmError :=
  ⟨kind, op, mnemonic ++ text ": " ++ Quoted.string op ++ text words⟩

/-- A register: `V` and one hexadecimal digit. -/
def register (mnemonic op : Bytes) : Reading Register :=
  if op.length ≠ 2 ∨ ¬isRegister op then
    throw (found .wrongValue mnemonic "expected register, found " op)
  else do
    let digit ← afterFirst op
    match hexBelow? 16 digit with
    | some n => pure (lastDigit n)
    | none => throw (isNot .wrongValue mnemonic " is not a register" op)

/-- A byte in hexadecimal of either case. -/
def hexByte (mnemonic op : Bytes) : Reading UInt8 :=
  match hexBelow? 256 op with
  | some n => pure n.toUInt8
  | none => throw (isNot .wrongValue mnemonic " is not a byte" op)

/-- A byte in hexadecimal that starts with a lower-case digit. -/
def byte (mnemonic op : Bytes) : Reading UInt8 := do
  match ← lead? op with
  | none => throw (found .wrongValue mnemonic "expected number, found " op)
  | some _ => hexByte mnemonic op

/-- One hexadecimal digit of either case. -/
def nibble (mnemonic op : Bytes) : Reading (Fin 16) :=
  if op.length ≠ 1 then
    throw (found .wrongValue mnemonic "expected one hex digit, found " op)
  else
    match hexBelow? 16 op with
    | some n => pure (lastDigit n)
    | none => throw (found .wrongValue mnemonic "expected one hex digit, found " op)

/-- An address: a lower-case digit and the byte behind it, which is written in either case. -/
def address (mnemonic op : Bytes) : Reading Address := do
  match ← lead? op with
  | none => throw (isNot .notMemoryLocation mnemonic " is not a memory location" op)
  | some page =>
    let rest ← afterFirst op
    match hexBelow? 256 rest with
    | some n => pure ⟨page, n.toUInt8⟩
    | none => throw (isNot .notMemoryLocation mnemonic " is not a memory location" op)

end Operand

end Chip8
