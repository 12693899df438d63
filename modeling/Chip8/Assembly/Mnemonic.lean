import Chip8.Text.Bytes

/-!
The words that start a statement. Each mnemonic has the fewest operands it accepts and a sentence
for what is missing when there are fewer.
-/

namespace Chip8

/-- The mnemonics, in the order of the machine's manual. -/
inductive Mnemonic where
  | nop | cls | ret | jp | call | se | ld | add | or | and
  | xor | sub | shr | subn | shl | sne | rnd | drw | skp | sknp
  deriving DecidableEq, Repr

namespace Mnemonic

def all : List Mnemonic :=
  [nop, cls, ret, jp, call, se, ld, add, or, and, xor, sub, shr, subn, shl, sne, rnd, drw, skp, sknp]

theorem mem_all (m : Mnemonic) : m ∈ all := by cases m <;> decide

def name : Mnemonic → Bytes
  | nop => text "nop"
  | cls => text "cls"
  | ret => text "ret"
  | jp => text "jp"
  | call => text "call"
  | se => text "se"
  | ld => text "ld"
  | add => text "add"
  | or => text "or"
  | and => text "and"
  | xor => text "xor"
  | sub => text "sub"
  | shr => text "shr"
  | subn => text "subn"
  | shl => text "shl"
  | sne => text "sne"
  | rnd => text "rnd"
  | drw => text "drw"
  | skp => text "skp"
  | sknp => text "sknp"

/-- The fewest operands a mnemonic accepts. -/
def arity : Mnemonic → Nat
  | nop | cls | ret => 0
  | jp | call | skp | sknp => 1
  | se | ld | add | or | and | xor | sub | shr | subn | shl | sne | rnd => 2
  | drw => 3

/-- What a statement with too few operands lacks. -/
def needs : Mnemonic → String
  | nop | cls | ret => ""
  | jp => "requires a memory location, or V0 and a memory location"
  | call => "requires a memory location"
  | se => "requires a register and a register or a number"
  | ld => "requires 2 more values"
  | add => "requires a register and a number or register"
  | or | and | xor | sub | shr | subn | shl | sne => "requires two registers"
  | rnd => "requires a register and a number"
  | drw => "requires two registers and a nibble"
  | skp | sknp => "requires a register"

/-- The mnemonic a word spells, case included. -/
def ofName? (word : Bytes) : Option Mnemonic := all.find? fun m => m.name = word

theorem ofName?_name (m : Mnemonic) : ofName? m.name = some m := by cases m <;> decide

theorem name_of_ofName? {word : Bytes} {m : Mnemonic} (h : ofName? word = some m) : m.name = word := by
  simpa using List.find?_some h

end Mnemonic

end Chip8
