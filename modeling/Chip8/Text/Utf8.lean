import Chip8.Text.Bytes

/-!
The characters of a text that may be damaged. A text is read from the left; where a well-formed
UTF-8 sequence starts it gives one character, and every byte that starts none stands for itself, so
no byte is ever lost.
-/

namespace Chip8

/-- One item of a text: a character, or a byte that belongs to none. -/
inductive Glyph where
  | char (c : Char)
  | stray (b : UInt8)
  deriving DecidableEq, Repr

namespace Utf8

/-- Whether a byte can continue a sequence. -/
def isTail (b : UInt8) : Bool := 0x80 ≤ b && b ≤ 0xBF

/-- The character of a code point that is known to be one. -/
def scalar (lead : Nat) (tails : List UInt8) : Glyph :=
  .char (Char.ofNat (tails.foldl (fun value b => value * 64 + (b.toNat - 0x80)) lead))

/-- The first glyph of a text that starts with `a`, and how many bytes after `a` it takes. The
second byte's range keeps out overlong forms, surrogates and what lies above the last plane. -/
def first (a : UInt8) (rest : Bytes) : Glyph × Nat :=
  if a < 0x80 then (.char (Char.ofNat a.toNat), 0)
  else if 0xC2 ≤ a ∧ a ≤ 0xDF then
    match rest with
    | b :: _ => if isTail b then (scalar (a.toNat - 0xC0) [b], 1) else (.stray a, 0)
    | _ => (.stray a, 0)
  else if 0xE0 ≤ a ∧ a ≤ 0xEF then
    match rest with
    | b :: c :: _ =>
      let low : UInt8 := if a = 0xE0 then 0xA0 else 0x80
      let high : UInt8 := if a = 0xED then 0x9F else 0xBF
      if low ≤ b ∧ b ≤ high ∧ isTail c then (scalar (a.toNat - 0xE0) [b, c], 2) else (.stray a, 0)
    | _ => (.stray a, 0)
  else if 0xF0 ≤ a ∧ a ≤ 0xF4 then
    match rest with
    | b :: c :: d :: _ =>
      let low : UInt8 := if a = 0xF0 then 0x90 else 0x80
      let high : UInt8 := if a = 0xF4 then 0x8F else 0xBF
      if low ≤ b ∧ b ≤ high ∧ isTail c ∧ isTail d then (scalar (a.toNat - 0xF0) [b, c, d], 3)
      else (.stray a, 0)
    | _ => (.stray a, 0)
  else (.stray a, 0)

/-- The glyphs of a text after its first `skip` bytes. -/
def glyphsFrom : Nat → Bytes → List Glyph
  | _, [] => []
  | skip + 1, _ :: rest => glyphsFrom skip rest
  | 0, a :: rest => (first a rest).1 :: glyphsFrom (first a rest).2 rest

def glyphs (t : Bytes) : List Glyph := glyphsFrom 0 t

def encode (c : Char) : Bytes := String.utf8EncodeChar c

end Utf8

def Glyph.bytes : Glyph → Bytes
  | .char c => Utf8.encode c
  | .stray b => [b]

end Chip8
