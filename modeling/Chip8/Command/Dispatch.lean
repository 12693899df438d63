import Chip8.Command.Asm
import Chip8.Command.Help
import Chip8.Command.Upload
import Chip8.Text.Case

/-!
The command line. The first word that is not a flag names the command; where a flag's value may be
taken for that word, only the flags of the whole program are known. Help is given before arguments
are counted. A word that names no command is told together with the commands it may have been meant
for.
-/

namespace Chip8.Command

/-- The least number of insertions, deletions and replacements of bytes between a text and each end
of another: the next row of the table of distances. -/
def distanceRow (b : UInt8) (t : Bytes) (row : List Nat) : List Nat :=
  let first := row.headD 0 + 1
  let cells := (t.zip (row.zip (row.drop 1))).foldl (fun (left, done) (a, diagonal, above) =>
    let cell := if a = b then diagonal else 1 + min left (min above diagonal)
    (cell, cell :: done)) (first, [first])
  cells.2.reverse

/-- The least number of insertions, deletions and replacements that turn one text into the other. -/
def distance (s t : Bytes) : Nat :=
  ((s.foldl (fun row b => distanceRow b t row) (List.range (t.length + 1))).getLast?).getD 0

/-- The commands that a word may have been meant for: those two changes away and those it begins. -/
def suggestions (word : Bytes) : List Bytes :=
  [text "asm", text "completion", text "dump", text "upload"].filter fun c =>
    distance (smallLetters word) c ≤ 2 || (smallLetters word).isPrefixOf c

def unknownCommand (word : Bytes) : Bytes :=
  text "unknown command " ++ Quoted.string word ++ text " for " ++ Quoted.string programName ++
    (if (suggestions word).isEmpty then []
     else
      text "\n\nDid you mean this?\n" ++
        (suggestions word).flatMap fun c => text "\t" ++ c ++ text "\n")

/-- Whether the argument after a flag is taken for its value when the command is looked for. -/
def takesNext (argument : Bytes) : Bool :=
  !argument.contains 0x3D &&
    (((text "--").isPrefixOf argument && argument.drop 2 ≠ debugFlag.name) ||
      (argument.head? = some 0x2D && argument.length = 2))

/-- The first word that is neither a flag nor the value of one. -/
def firstWord? (skipping : Bool) : List Bytes → Option Bytes
  | [] => none
  | argument :: rest =>
    if skipping then firstWord? false rest
    else if argument = text "--" then none
    else if takesNext argument then (if rest.length ≤ 1 then none else firstWord? true rest)
    else if argument.isEmpty ∨ argument.head? = some 0x2D then firstWord? false rest
    else some argument

/-- The command that is meant and its arguments, or the word that names none. -/
def find (arguments : List Bytes) : Except Bytes (Name × List Bytes) :=
  match firstWord? false arguments with
  | none => .ok (.root, arguments)
  | some word =>
    match Name.ofWord? word with
    | some n => .ok (n, arguments.erase word)
    | none => .error word

/-- Says what went wrong, unless that was said. -/
def conclude : Except ErrorChain Unit → Program System Bool
  | .ok () => .done true
  | .error e =>
    if e.isReported then .done false
    else do
      System.warn (text "Error: " ++ e.message ++ text "\n")
      return false

/-- Shows a page of help. That this fails is said, and is no failure of the command. -/
def showPage (page : Bytes) : Program System Unit := do
  match ← System.print page with
  | .error e => System.warn (e.message ++ text "\n")
  | .ok () => return ()

/-- Gives help on the command that the arguments name. If they name none, the usage of the program is
shown, and its help flag is not yet among the flags. -/
def runHelp (arguments : List Bytes) : Program System Unit :=
  match find arguments with
  | .ok (n, _) => showPage (helpPage n)
  | .error _ =>
    showPage (text "Unknown help topic [" ++ Bytes.join (text " ") (arguments.map Quoted.raw) ++
      text "]\n" ++ programUsage [debugFlag])

def perform (n : Name) (p : Parsed) (path : Bytes) : Program System (Except ErrorChain Unit) :=
  match n with
  | .asm =>
    Asm.run ⟨p.truth "stdout", (p.word? "out").getD [], (p.word? "mode").getD [], p.truth "list"⟩ path
  | .dump => Dump.run ((p.word? "mode").getD (text "hex")) path
  | .upload =>
    Upload.run ⟨(p.word? "config").getD [], p.word? "device", p.number? "baud", p.truth "run", p.truth "debug"⟩
      path
  | .root | .help => .done (.ok ())

def runCommand (n : Name) (p : Parsed) : Program System (Except ErrorChain Unit) :=
  if p.truth "help" ∨ n = .root then do
    showPage (helpPage n)
    return .ok ()
  else if n = .help then do
    runHelp p.arguments
    return .ok ()
  else
    match p.arguments with
    | [path] => perform n p path
    | arguments =>
      .done (.error (.plain (text "accepts 1 arg(s), received " ++ Numeral.decimal arguments.length)))

/-- Carries out a command line. Tells whether it succeeded. -/
def execute (arguments : List Bytes) : Program System Bool :=
  match find arguments with
  | .error word => conclude (.error (.plain (unknownCommand word)))
  | .ok (n, rest) =>
    match parse n.flags rest with
    | .error e => conclude (.error (.plain e.message))
    | .ok p => do
      let result ← runCommand n p
      conclude result

end Chip8.Command
