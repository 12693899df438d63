import Chip8.Text.Bytes

/-!
Bytes written in base 64: four digits of six bits stand for three bytes. A last group of two or three
digits is filled up with equals signs, and its spare bits do not count. Line ends are passed over
wherever they stand.
-/

namespace Chip8.Base64

def digit? (b : UInt8) : Option Nat :=
  if 0x41 ≤ b ∧ b ≤ 0x5A then some (b.toNat - 0x41)
  else if 0x61 ≤ b ∧ b ≤ 0x7A then some (b.toNat - 0x61 + 26)
  else if 0x30 ≤ b ∧ b ≤ 0x39 then some (b.toNat - 0x30 + 52)
  else if b = 0x2B then some 62
  else if b = 0x2F then some 63
  else none

/-- The bytes of digits; spare bits at the end are dropped. -/
def bytes : List Nat → Bytes
  | a :: b :: c :: d :: rest =>
    (a * 4 + b / 16).toUInt8 :: (b % 16 * 16 + c / 4).toUInt8 :: (c % 4 * 64 + d).toUInt8 :: bytes rest
  | [a, b, c] => [(a * 4 + b / 16).toUInt8, (b % 16 * 16 + c / 4).toUInt8]
  | [a, b] => [(a * 4 + b / 16).toUInt8]
  | _ => []

def isLineEnd (b : UInt8) : Bool := b = 0x0A || b = 0x0D

def isFilling (b : UInt8) : Bool := b = 0x3D

def decode? (t : Bytes) : Option Bytes :=
  let t := t.filter fun b => !isLineEnd b
  let filling := (t.reverse.takeWhile isFilling).length
  if t.length % 4 = 0 ∧ filling ≤ 2 then
    ((t.take (t.length - filling)).mapM digit?).map bytes
  else none

end Chip8.Base64
