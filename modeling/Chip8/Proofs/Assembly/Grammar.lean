import Chip8.Assembly.Instruction
import Chip8.Assembly.Mnemonic
import Chip8.Proofs.Text.Hexadecimal
import Chip8.Proofs.Text.Words
import Mathlib.Data.List.Forall2

/-!
# The grammar of statements

The language of statements as the machine's manual has it, stated as relations on byte strings and
without a reader in mind: which texts are registers, nibbles, bytes and addresses and with what value,
which rows of operands each mnemonic takes, how words and operands stand in a line, and the word of
each instruction in plain arithmetic.

A form may be followed by any further operands. The one exception is the jump, where a second operand
changes the form. A byte may have any number of leading zeros, in a place where a special register
could also stand it begins with a lower-case digit, and an address always does.
-/

namespace Chip8

def Address.value (a : Address) : Nat := 0x100 * a.page.val + a.offset.toNat

/-- The sixteen-bit word of an instruction, by the table of the machine's manual. -/
def Instruction.word : Instruction → Nat
  | nop => 0x0000
  | clearScreen => 0x00E0
  | returnFromCall => 0x00EE
  | jump a => 0x1000 + a.value
  | jumpOffset a => 0xB000 + a.value
  | call a => 0x2000 + a.value
  | skipIfByte x k => 0x3000 + 0x100 * x.val + k.toNat
  | skipIfSame x y => 0x5000 + 0x100 * x.val + 0x10 * y.val
  | loadRegister x y => 0x8000 + 0x100 * x.val + 0x10 * y.val
  | loadDelay x => 0xF007 + 0x100 * x.val
  | loadKey x => 0xF00A + 0x100 * x.val
  | loadMemory x => 0xF065 + 0x100 * x.val
  | loadByte x k => 0x6000 + 0x100 * x.val + k.toNat
  | loadIndex a => 0xA000 + a.value
  | storeDelay x => 0xF015 + 0x100 * x.val
  | storeSound x => 0xF018 + 0x100 * x.val
  | pointAtDigit x => 0xF029 + 0x100 * x.val
  | storeDecimal x => 0xF033 + 0x100 * x.val
  | storeMemory x => 0xF055 + 0x100 * x.val
  | addByte x k => 0x7000 + 0x100 * x.val + k.toNat
  | addRegister x y => 0x8004 + 0x100 * x.val + 0x10 * y.val
  | addToIndex x => 0xF01E + 0x100 * x.val
  | pair .or x y => 0x8001 + 0x100 * x.val + 0x10 * y.val
  | pair .and x y => 0x8002 + 0x100 * x.val + 0x10 * y.val
  | pair .xor x y => 0x8003 + 0x100 * x.val + 0x10 * y.val
  | pair .sub x y => 0x8005 + 0x100 * x.val + 0x10 * y.val
  | pair .subn x y => 0x8007 + 0x100 * x.val + 0x10 * y.val
  | pair .shr x y => 0x8006 + 0x100 * x.val + 0x10 * y.val
  | pair .shl x y => 0x800E + 0x100 * x.val + 0x10 * y.val
  | skipIfOther x y => 0x9000 + 0x100 * x.val + 0x10 * y.val
  | random x k => 0xC000 + 0x100 * x.val + k.toNat
  | draw x y n => 0xD000 + 0x100 * x.val + 0x10 * y.val + n.val
  | skipIfPressed x => 0xE09E + 0x100 * x.val
  | skipIfReleased x => 0xE0A1 + 0x100 * x.val

namespace Grammar

open Numeral

/-- A register is `V` and one digit of either case. -/
def RegisterText (t : Bytes) (x : Register) : Prop := ∃ b, t = text "V" ++ [b] ∧ HexDigit b x.val

/-- A nibble is one digit of either case. -/
def NibbleText (t : Bytes) (n : Fin 16) : Prop := ∃ b, t = [b] ∧ HexDigit b n.val

/-- A byte is a number in either case that is at most 255, however many digits it has. -/
def ByteText (t : Bytes) (k : UInt8) : Prop := HexNumber t k.toNat

/-- A byte that begins with a lower-case digit. -/
def LowerByteText (t : Bytes) (k : UInt8) : Prop := ByteText t k ∧ ∃ b rest d, t = b :: rest ∧ LowerDigit b d

/-- An address is a lower-case digit and a byte behind it. -/
def AddressText (t : Bytes) (a : Address) : Prop :=
  ∃ b rest, t = b :: rest ∧ LowerDigit b a.page.val ∧ ByteText rest a.offset

/-- The operands a mnemonic may have and the instruction they make, form by form. -/
inductive Form : Mnemonic → List Bytes → Instruction → Prop
  | nop {rest : List Bytes} : Form .nop rest .nop
  | cls {rest : List Bytes} : Form .cls rest .clearScreen
  | ret {rest : List Bytes} : Form .ret rest .returnFromCall
  | jump {t : Bytes} {a : Address} (ht : AddressText t a) : Form .jp [t] (.jump a)
  | jumpOffset {t : Bytes} {a : Address} {rest : List Bytes} (ht : AddressText t a) :
    Form .jp (text "V0" :: t :: rest) (.jumpOffset a)
  | call {t : Bytes} {a : Address} {rest : List Bytes} (ht : AddressText t a) : Form .call (t :: rest) (.call a)
  | skipIfSame {s t : Bytes} {x y : Register} {rest : List Bytes} (hs : RegisterText s x) (ht : RegisterText t y) :
    Form .se (s :: t :: rest) (.skipIfSame x y)
  | skipIfByte {s t : Bytes} {x : Register} {k : UInt8} {rest : List Bytes} (hs : RegisterText s x)
    (ht : LowerByteText t k) : Form .se (s :: t :: rest) (.skipIfByte x k)
  | loadRegister {s t : Bytes} {x y : Register} {rest : List Bytes} (hs : RegisterText s x)
    (ht : RegisterText t y) : Form .ld (s :: t :: rest) (.loadRegister x y)
  | loadDelay {s : Bytes} {x : Register} {rest : List Bytes} (hs : RegisterText s x) :
    Form .ld (s :: text "DT" :: rest) (.loadDelay x)
  | loadKey {s : Bytes} {x : Register} {rest : List Bytes} (hs : RegisterText s x) :
    Form .ld (s :: text "K" :: rest) (.loadKey x)
  | loadMemory {s : Bytes} {x : Register} {rest : List Bytes} (hs : RegisterText s x) :
    Form .ld (s :: text "[I]" :: rest) (.loadMemory x)
  | loadByte {s t : Bytes} {x : Register} {k : UInt8} {rest : List Bytes} (hs : RegisterText s x)
    (ht : LowerByteText t k) : Form .ld (s :: t :: rest) (.loadByte x k)
  | loadIndex {t : Bytes} {a : Address} {rest : List Bytes} (ht : AddressText t a) :
    Form .ld (text "I" :: t :: rest) (.loadIndex a)
  | storeDelay {t : Bytes} {x : Register} {rest : List Bytes} (ht : RegisterText t x) :
    Form .ld (text "DT" :: t :: rest) (.storeDelay x)
  | storeSound {t : Bytes} {x : Register} {rest : List Bytes} (ht : RegisterText t x) :
    Form .ld (text "ST" :: t :: rest) (.storeSound x)
  | pointAtDigit {t : Bytes} {x : Register} {rest : List Bytes} (ht : RegisterText t x) :
    Form .ld (text "F" :: t :: rest) (.pointAtDigit x)
  | storeDecimal {t : Bytes} {x : Register} {rest : List Bytes} (ht : RegisterText t x) :
    Form .ld (text "B" :: t :: rest) (.storeDecimal x)
  | storeMemory {t : Bytes} {x : Register} {rest : List Bytes} (ht : RegisterText t x) :
    Form .ld (text "[I]" :: t :: rest) (.storeMemory x)
  | addToIndex {t : Bytes} {x : Register} {rest : List Bytes} (ht : RegisterText t x) :
    Form .add (text "I" :: t :: rest) (.addToIndex x)
  | addRegister {s t : Bytes} {x y : Register} {rest : List Bytes} (hs : RegisterText s x)
    (ht : RegisterText t y) : Form .add (s :: t :: rest) (.addRegister x y)
  | addByte {s t : Bytes} {x : Register} {k : UInt8} {rest : List Bytes} (hs : RegisterText s x)
    (ht : ByteText t k) : Form .add (s :: t :: rest) (.addByte x k)
  | or {s t : Bytes} {x y : Register} {rest : List Bytes} (hs : RegisterText s x) (ht : RegisterText t y) :
    Form .or (s :: t :: rest) (.pair .or x y)
  | and {s t : Bytes} {x y : Register} {rest : List Bytes} (hs : RegisterText s x) (ht : RegisterText t y) :
    Form .and (s :: t :: rest) (.pair .and x y)
  | xor {s t : Bytes} {x y : Register} {rest : List Bytes} (hs : RegisterText s x) (ht : RegisterText t y) :
    Form .xor (s :: t :: rest) (.pair .xor x y)
  | sub {s t : Bytes} {x y : Register} {rest : List Bytes} (hs : RegisterText s x) (ht : RegisterText t y) :
    Form .sub (s :: t :: rest) (.pair .sub x y)
  | shr {s t : Bytes} {x y : Register} {rest : List Bytes} (hs : RegisterText s x) (ht : RegisterText t y) :
    Form .shr (s :: t :: rest) (.pair .shr x y)
  | subn {s t : Bytes} {x y : Register} {rest : List Bytes} (hs : RegisterText s x) (ht : RegisterText t y) :
    Form .subn (s :: t :: rest) (.pair .subn x y)
  | shl {s t : Bytes} {x y : Register} {rest : List Bytes} (hs : RegisterText s x) (ht : RegisterText t y) :
    Form .shl (s :: t :: rest) (.pair .shl x y)
  | skipIfOther {s t : Bytes} {x y : Register} {rest : List Bytes} (hs : RegisterText s x)
    (ht : RegisterText t y) : Form .sne (s :: t :: rest) (.skipIfOther x y)
  | random {s t : Bytes} {x : Register} {k : UInt8} {rest : List Bytes} (hs : RegisterText s x)
    (ht : ByteText t k) : Form .rnd (s :: t :: rest) (.random x k)
  | draw {s t u : Bytes} {x y : Register} {n : Fin 16} {rest : List Bytes} (hs : RegisterText s x)
    (ht : RegisterText t y) (hu : NibbleText u n) : Form .drw (s :: t :: u :: rest) (.draw x y n)
  | skipIfPressed {s : Bytes} {x : Register} {rest : List Bytes} (hs : RegisterText s x) :
    Form .skp (s :: rest) (.skipIfPressed x)
  | skipIfReleased {s : Bytes} {x : Register} {rest : List Bytes} (hs : RegisterText s x) :
    Form .sknp (s :: rest) (.skipIfReleased x)

/-- The line is a first word and further words with one blank between each two, and the operands are
the further words without a final comma. -/
def Layout (line word : Bytes) (operands : List Bytes) : Prop :=
  ∃ words, line = Bytes.join (text " ") (word :: words) ∧ (∀ w ∈ word :: words, 0x20 ∉ w) ∧
    List.Forall₂ (Bytes.Trimmed 0x2C) words operands

/-- The line is a statement with this mnemonic and this instruction. -/
def Reads (line : Bytes) (m : Mnemonic) (i : Instruction) : Prop :=
  ∃ operands, Layout line m.name operands ∧ Form m operands i

/-- The line is a statement whose instruction has this word. -/
def Derives (line : Bytes) (w : Nat) : Prop := ∃ m i, Reads line m i ∧ i.word = w

end Grammar

end Chip8
