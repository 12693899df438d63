import Chip8.Text.Numeral
import Chip8.Text.Printable
import Chip8.Text.Utf8

/-!
Quoted text, as messages show what they found. The delimiter and the backslash take a backslash,
the usual control characters have a letter, and whatever cannot be printed is written by its number:
two hexadecimal digits for a control character or a byte that belongs to no character, four or
eight for any other code point.
-/

namespace Chip8.Quoted

def doubleQuote : Char := Char.ofNat 0x22

def singleQuote : Char := Char.ofNat 0x27

def backslash : Char := Char.ofNat 0x5C

/-- The letter that escapes a control character, if it has one. -/
def letter? (code : Nat) : Option Char :=
  match code with
  | 0x07 => some 'a'
  | 0x08 => some 'b'
  | 0x09 => some 't'
  | 0x0A => some 'n'
  | 0x0B => some 'v'
  | 0x0C => some 'f'
  | 0x0D => some 'r'
  | _ => none

/-- A glyph between two `delimiter`s. -/
def item (delimiter : Char) : Glyph → Bytes
  | .stray b => text "\\x" ++ Numeral.hexLower 2 b.toNat
  | .char c =>
    if c = delimiter ∨ c = backslash then text "\\" ++ Utf8.encode c
    else if isPrintable c then Utf8.encode c
    else
      match letter? c.toNat with
      | some l => text "\\" ++ Utf8.encode l
      | none =>
        if c.toNat < 0x20 ∨ c.toNat = 0x7F then text "\\x" ++ Numeral.hexLower 2 c.toNat
        else if c.toNat < 0x10000 then text "\\u" ++ Numeral.hexLower 4 c.toNat
        else text "\\U" ++ Numeral.hexLower 8 c.toNat

def string (t : Bytes) : Bytes :=
  text "\"" ++ (Utf8.glyphs t).flatMap (item doubleQuote) ++ text "\""

def character (c : Char) : Bytes :=
  text "'" ++ item singleQuote (.char c) ++ text "'"

/-- Whether a glyph can stand in a text between grave accents. -/
def isPlain : Glyph → Bool
  | .stray _ => false
  | .char c =>
    let n := c.toNat
    !((n < 0x20 && n ≠ 0x09) || n = 0x60 || n = 0x7F || n = 0xFEFF)

/-- A text between grave accents, or in double quotes if it cannot stand there as it is. -/
def raw (t : Bytes) : Bytes :=
  if (Utf8.glyphs t).all isPlain then text "`" ++ t ++ text "`" else string t

end Chip8.Quoted
