import Chip8.Text.Numeral

/-!
One encoded instruction: two bytes, the high one written first. A word of sixteen bits and its two
bytes determine each other.
-/

namespace Chip8

structure Opcode where
  high : UInt8
  low : UInt8
  deriving DecidableEq, Repr

namespace Opcode

def bytes (op : Opcode) : Bytes := [op.high, op.low]

def word (op : Opcode) : Nat := op.high.toNat * 256 + op.low.toNat

/-- The instruction with the low sixteen bits of `n` as its word. -/
def ofWord (n : Nat) : Opcode := ⟨(n / 256).toUInt8, n.toUInt8⟩

/-- Four upper-case hexadecimal digits. -/
def digits (op : Opcode) : Bytes := Numeral.hexUpper 4 op.word

theorem word_lt (op : Opcode) : op.word < 65536 := by
  have h := op.high.toNat_lt
  have l := op.low.toNat_lt
  simp only [word]
  omega

end Opcode

def lastDigit (n : Nat) : Fin 16 := ⟨n % 16, Nat.mod_lt n (by decide)⟩

theorem val_lastDigit (n : Nat) : (lastDigit n).val = n % 16 := rfl

theorem lastDigit_val (d : Fin 16) : lastDigit d.val = d := Fin.ext (Nat.mod_eq_of_lt d.isLt)

/-- The byte with the given high and low half. -/
def packNibbles (high low : Fin 16) : UInt8 := (high.val * 16 + low.val).toUInt8

theorem toNat_packNibbles (high low : Fin 16) : (packNibbles high low).toNat = high.val * 16 + low.val := by
  have : high.val * 16 + low.val < 256 := by omega
  simp [packNibbles, Nat.toUInt8, UInt8.toNat_ofNat', Nat.mod_eq_of_lt this]

end Chip8
