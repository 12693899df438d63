import Chip8.Assembly.Build
import Chip8.Assembly.Image
import Chip8.Assembly.Source
import Chip8.System

/-!
Assembling a file. A source is accepted if its path leads to a file with the extension of sources;
its lines are then built into an image. What follows the last newline is not assembled, and is kept
so that a warning can be given. An image is written under a name with the extension of images.
-/

namespace Chip8

/-- Why a source gives no image. -/
inductive AssembleError where
  | refused (error : AsmError)
  | file (error : FileError)
  | build (error : BuildError)
  deriving DecidableEq, Repr

def AssembleError.chain : AssembleError → ErrorChain
  | refused e => .classified e
  | file e => .plain e.message
  | build e => e.chain

/-- A source file and the image built from it. -/
structure Assembled where
  path : Bytes
  source : Source
  image : Bytes
  deriving DecidableEq, Repr

def fileMissing (path : Bytes) : AsmError :=
  ⟨.fileMissing, path, text "cannot find " ++ path ++ text "; either it is deleted or does not exist"⟩

def wrongFormat (path : Bytes) : AsmError :=
  ⟨.wrongFormat, path, path ++ text " is of wrong format, expecting " ++ Source.extension ++ text " file"⟩

def Source.load (path : Bytes) : Program System (Except AssembleError Source) := do
  if ← System.isFile path then
    if Path.extension path = Source.extension then
      match ← System.read path with
      | .ok data => return .ok (Source.ofText data)
      | .error e => return .error (.file e)
    else return .error (.refused (wrongFormat path))
  else return .error (.refused (fileMissing path))

def Source.assemble (path : Bytes) (source : Source) : Except AssembleError Assembled :=
  match build source.lines with
  | .ok image => .ok ⟨path, source, image⟩
  | .error e => .error (.build e)

def assemble (path : Bytes) : Program System (Except AssembleError Assembled) := do
  match ← Source.load path with
  | .ok source => return source.assemble path
  | .error e => return .error e

/-- Writes an image file and gives its full name. -/
def Image.store (name image : Bytes) : Program System (Except FileError Bytes) := do
  match ← System.store (Image.fileName name) image with
  | .ok () => return .ok (Image.fileName name)
  | .error e => return .error e

end Chip8
