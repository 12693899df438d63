import Chip8.Text.Utf8

/-!
Blank text: text in which every glyph is white space. White space is the Unicode property, so the
no-break and the ideographic space count, and a zero-width space, which is a format character, does
not.
-/

namespace Chip8

def isWhiteSpace (c : Char) : Bool :=
  let n := c.toNat
  (0x09 ≤ n && n ≤ 0x0D) || n == 0x20 || n == 0x85 || n == 0xA0 || n == 0x1680 ||
    (0x2000 ≤ n && n ≤ 0x200A) || n == 0x2028 || n == 0x2029 || n == 0x202F || n == 0x205F ||
    n == 0x3000

/-- Whether a text holds nothing but white space. -/
def isBlank (t : Bytes) : Bool :=
  (Utf8.glyphs t).all fun
    | .char c => isWhiteSpace c
    | .stray _ => false

end Chip8
