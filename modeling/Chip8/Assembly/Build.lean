import Chip8.Assembly.Encode

/-!
Building a program. Every line is one statement and becomes one instruction word, so a program is
encoded line by line in one pass. The first line that does not encode stops the build, and no image
comes out of it.
-/

namespace Chip8

/-- Why a program has no image. -/
inductive BuildError where
  | emptyProgram
  | atLine (line : Nat) (error : AsmError)
  deriving DecidableEq, Repr

/-- The error as it is reported; lines are counted from 1. -/
def BuildError.chain : BuildError → ErrorChain
  | emptyProgram => .classified ⟨.emptyProgram, [], text "nothing to assemble"⟩
  | atLine n e => .atLine n (.classified e)

/-- The image of lines of which the first has number `line`. -/
def buildFrom (line : Nat) : List Bytes → Except BuildError Bytes
  | [] => .ok []
  | first :: rest =>
    match encode first with
    | .error e => .error (.atLine line e)
    | .ok op =>
      match buildFrom (line + 1) rest with
      | .error e => .error e
      | .ok image => .ok (op.bytes ++ image)

/-- The image of a program: the instruction words of its lines in order. -/
def build (lines : List Bytes) : Except BuildError Bytes :=
  if lines.isEmpty then .error .emptyProgram else buildFrom 1 lines

end Chip8
