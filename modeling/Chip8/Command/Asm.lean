import Chip8.Assembly.Assemble
import Chip8.Assembly.Diagnostic
import Chip8.Assembly.Listing
import Chip8.Text.Blank
import Chip8.Text.Quoted

/-!
The `asm` command: assembles one source file and writes the image in the chosen mode. Everything
that can be refused is refused before anything is written, and a failure is reported as it happens. An
image that cannot be written is a failure; what becomes of a listing is not asked.
-/

namespace Chip8.Command

structure AsmFlags where
  stdout : Bool
  out : Bytes
  mode : Bytes
  list : Bool
  deriving DecidableEq, Repr

namespace Asm

def name : Bytes := text "asm"

def log (line : Bytes) : Program System Unit := System.log name line

/-- Shows an error and marks it as shown. -/
def refuse (e : ErrorChain) : Program System (Except ErrorChain Unit) := do
  System.warn (Diagnostic.report (← System.isTerminal) e)
  return .error (.reported e)

def unterminatedWarning (path rest : Bytes) : Bytes :=
  text "warning: " ++ path ++ text ": no newline after " ++ Quoted.string rest ++
    text ", it was not assembled"

/-- Warns of text behind the last newline, unless it is blank. -/
def warnUnterminated (path rest : Bytes) : Program System Unit :=
  if isBlank rest then .done () else log (unterminatedWarning path rest)

/-- The mode that the flags choose; a mode that is named wins. -/
def chosenMode (flags : AsmFlags) : Except AsmError Mode :=
  if flags.mode.isEmpty then .ok (if flags.stdout then .stdout else .binary)
  else Mode.ofName flags.mode

/-- The name of the image: the one given, or that of the source without its extension. -/
def imageName (flags : AsmFlags) (path : Bytes) : Bytes :=
  if flags.out.isEmpty then Bytes.dropEnding (Path.extension path) path else flags.out

def printListing (draw : Table.Renderer) (a : Assembled) : Program System (Except ErrorChain Unit) :=
  match Listing.render a.source.lines a.image draw with
  | .error e => .done (.error (.plain e.message))
  | .ok t => do
    let _ ← System.print t
    return .ok ()

def printImage (mode : Mode) (a : Assembled) : Program System (Except ErrorChain Unit) :=
  match Image.render mode a.image with
  | .error e => .done (.error (.classified e))
  | .ok t => do
    let answer ← System.print t
    return answer.mapError fun e => .plain e.message

def writeFile (flags : AsmFlags) (a : Assembled) : Program System (Except ErrorChain Unit) := do
  match ← Image.store (imageName flags a.path) a.image with
  | .error e => return .error (.plain e.message)
  | .ok file =>
    log (text "wrote " ++ Numeral.decimal a.image.length ++ text " bytes to " ++ file)
    return .ok ()

def writeImage (draw : Table.Renderer) (flags : AsmFlags) (mode : Mode) (a : Assembled) :
    Program System (Except ErrorChain Unit) :=
  if mode = .binary then writeFile flags a
  else if mode = .listing then printListing draw a
  else printImage mode a

/-- Writes the image in a mode, and a listing behind it if that is wanted as well. -/
def write (draw : Table.Renderer) (flags : AsmFlags) (mode : Mode) (a : Assembled) :
    Program System (Except ErrorChain Unit) := do
  match ← writeImage draw flags mode a with
  | .error e => return .error e
  | .ok () => if flags.list ∧ mode ≠ .listing then printListing draw a else return .ok ()

def report : Except ErrorChain Unit → Program System (Except ErrorChain Unit)
  | .error e => refuse e
  | .ok () => .done (.ok ())

def deliver (draw : Table.Renderer) (flags : AsmFlags) (path : Bytes) (a : Assembled) :
    Program System (Except ErrorChain Unit) := do
  warnUnterminated path a.source.rest
  match chosenMode flags with
  | .error e => refuse (.classified e)
  | .ok mode =>
    let result ← write draw flags mode a
    report result

/-- Assembles the source at a path. The renderer draws the listing. -/
def run (flags : AsmFlags) (path : Bytes) (draw : Table.Renderer := Table.draw) :
    Program System (Except ErrorChain Unit) := do
  match ← assemble path with
  | .error e => refuse e.chain
  | .ok a => deliver draw flags path a

end Asm

end Chip8.Command
