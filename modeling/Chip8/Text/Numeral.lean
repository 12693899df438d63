import Chip8.Text.Bytes

/-!
Numerals in the bases the toolchain prints: decimal, and hexadecimal of either case with a least
number of digits. Digits are produced most significant first, zero is one digit, and no other
numeral starts with zero before it is padded.
-/

namespace Chip8.Numeral

/-- The digits of `n` in `base`, most significant first, of which at most `fuel + 1` are wanted. -/
def digitsWithin (base : Nat) : Nat → Nat → List Nat
  | 0, n => [n % base]
  | fuel + 1, n => if n < base then [n] else digitsWithin base fuel (n / base) ++ [n % base]

/-- The digits of `n` in `base`, most significant first. -/
def digits (base n : Nat) : List Nat := digitsWithin base n n

/-- The character of a digit below sixteen, letters in lower case. -/
def lowerDigit (d : Nat) : UInt8 := if d < 10 then (0x30 + d).toUInt8 else (0x57 + d).toUInt8

/-- The character of a digit below sixteen, letters in upper case. -/
def upperDigit (d : Nat) : UInt8 := if d < 10 then (0x30 + d).toUInt8 else (0x37 + d).toUInt8

def decimal (n : Nat) : Bytes := (digits 10 n).map lowerDigit

/-- An integer in decimal, with a sign only if it is negative. -/
def signed : Int → Bytes
  | .ofNat n => decimal n
  | .negSucc n => 0x2D :: decimal (n + 1)

/-- A number in upper-case hexadecimal of at least `width` digits. -/
def hexUpper (width n : Nat) : Bytes := Bytes.padLeft width 0x30 ((digits 16 n).map upperDigit)

/-- A number in lower-case hexadecimal of at least `width` digits. -/
def hexLower (width n : Nat) : Bytes := Bytes.padLeft width 0x30 ((digits 16 n).map lowerDigit)

/-- The bytes as pairs of upper-case hexadecimal digits with a blank between each two pairs. -/
def hexPairs (bytes : Bytes) : Bytes :=
  Bytes.join (text " ") (bytes.map fun b => hexUpper 2 b.toNat)

def isDigit (b : UInt8) : Bool := 0x30 ≤ b && b ≤ 0x39

/-- The value of a hexadecimal digit of either case. -/
def hexDigit? (b : UInt8) : Option Nat :=
  if 0x30 ≤ b ∧ b ≤ 0x39 then some (b.toNat - 0x30)
  else if 0x61 ≤ b ∧ b ≤ 0x66 then some (b.toNat - 0x57)
  else if 0x41 ≤ b ∧ b ≤ 0x46 then some (b.toNat - 0x37)
  else none

/-- The value of a non-empty run of digits below `base`, or nothing if a character is no such
digit. -/
def digitsValue? (base : Nat) (t : Bytes) : Option Nat :=
  if t.isEmpty then none
  else t.foldlM (fun value b => do
    let d ← hexDigit? b
    if d < base then some (value * base + d) else none) 0

end Chip8.Numeral
