import Chip8.Text.Bytes

/-!
Source text. A source is a sequence of lines, each ended by a newline; a carriage return before the
newline belongs to the line end. What follows the last newline is no line and is kept apart.
-/

namespace Chip8

/-- A text taken apart into its lines and what follows the last newline. -/
structure Source where
  lines : List Bytes
  rest : Bytes
  deriving DecidableEq, Repr

namespace Source

/-- A line without the carriage return at its end. -/
def lineOf (piece : Bytes) : Bytes := Bytes.dropFinal 0x0D piece

def ofText (t : Bytes) : Source :=
  let pieces := Bytes.splitOn 0x0A t
  ⟨pieces.dropLast.map lineOf, pieces.getLast (Bytes.splitOn_ne_nil 0x0A t)⟩

def extension : Bytes := text ".c8asm"

end Source

end Chip8
