import Chip8.Assembly.Error
import Chip8.Assembly.Image
import Chip8.System

/-!
The `dump` command: prints an image file. An image has an even number of bytes, since it is a
sequence of instruction words.
-/

namespace Chip8.Command

def readImage (path : Bytes) : Program System (Except ErrorChain Bytes) := do
  match ← System.read path with
  | .error e => return .error (.plain e.message)
  | .ok image =>
    if image.length % 2 = 0 then return .ok image
    else
      return .error (.plain (path ++ text ": odd length " ++ Numeral.decimal image.length ++
        text ", not an image"))

namespace Dump

/-- Prints the image at a path in the mode of a name. -/
def run (modeName path : Bytes) : Program System (Except ErrorChain Unit) :=
  match Mode.ofName modeName with
  | .error e => .done (.error (.classified e))
  | .ok mode => do
    match ← readImage path with
    | .error e => return .error e
    | .ok image =>
      match Image.render mode image with
      | .error e => return .error (.classified e)
      | .ok t =>
        let answer ← System.print t
        return answer.mapError fun e => .plain e.message

end Dump

end Chip8.Command
