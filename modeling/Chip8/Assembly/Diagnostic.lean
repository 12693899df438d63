import Chip8.Assembly.Error
import Chip8.Assembly.Source

/-!
Diagnostics. A failed assembly is reported in two lines: what is wrong and where, and that nothing
came out of it. For a program that does not encode, the report names the line and the class of the
fault and nothing of the source text. On a terminal the parts are coloured; every coloured part is
closed by a reset.
-/

namespace Chip8.Diagnostic

abbrev Style := Bytes

def reset : Style := text "\x1b[0m"
def bold : Style := text "\x1b[1m"
def red : Style := text "\x1b[31m"
def fileName : Style := text "\x1b[1;7m"
def lineNumber : Style := text "\x1b[93;1m"

/-- A part of a report with a style, if colours are on. -/
def styled (color : Bool) (style : Style) (part : Bytes) : Bytes :=
  if color then style ++ part ++ reset else part

/-- The style and the label of each fault of operands. -/
def discrepancies : List (Kind × Style × Bytes) :=
  [(.notMemoryLocation, text "\x1b[0;1;42m", text "Not a memory location"),
   (.wrongRegister, text "\x1b[0;1;36m", text "Wrong register"),
   (.notEnoughValues, text "\x1b[0;1;34m", text "Not enough values"),
   (.wrongValue, text "\x1b[0;1;41m", text "Wrong value")]

def lineMessage (color : Bool) (line : Int) (cause : ErrorChain) : Bytes :=
  let number := styled color lineNumber (Numeral.signed line)
  if cause.kind = .unknownInstruction then text "Unknown instruction at " ++ number
  else
    match discrepancies.lookup cause.kind with
    | some (style, label) =>
      text "Detected discrepancy at " ++ number ++ text " " ++
        styled color style (text "(" ++ label ++ text ")")
    | none => cause.message ++ text " at " ++ number

/-- What is said of a classified failure without a line, if it has words of its own. -/
def fileMessage? (color : Bool) (e : AsmError) : Option Bytes :=
  if e.kind = .fileMissing then
    some (text "File " ++ styled color fileName e.token ++ text " does not exist.")
  else if e.kind = .wrongFormat then
    some (text "File " ++ styled color fileName e.token ++ text " is of wrong format, expecting " ++
      Source.extension ++ text " file.")
  else if e.kind = .emptyProgram then some (text "No instructions.")
  else none

def message (color : Bool) (e : ErrorChain) : Bytes :=
  match e.line? with
  | some (line, cause) => lineMessage color line cause
  | none =>
    match e.classified? with
    | some c => (fileMessage? color c).getD e.message
    | none => e.message

def report (color : Bool) (e : ErrorChain) : Bytes :=
  styled color bold (text "SLIP-8 the CHIP-8 Compiler: ") ++
    styled color (bold ++ red) (text "Error:") ++ text " " ++ message color e ++
    text "\nCompilation terminated.\n"

end Chip8.Diagnostic
