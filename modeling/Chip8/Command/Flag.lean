import Chip8.Text.Literal
import Chip8.Text.Quoted

/-!
Flags of a command line. A flag has a long name and perhaps a letter. A truth value is set by the
flag alone or by what follows an equals sign; any other flag takes what follows an equals sign, the
rest of a cluster of letters, or the next argument. Flags and arguments may be mixed, and two dashes
end the flags. Arguments are gone through from the left and the first fault is told.
-/

namespace Chip8.Command

inductive FlagKind where
  | truth
  | word
  | number
  deriving DecidableEq, Repr

inductive FlagValue where
  | truth (b : Bool)
  | word (t : Bytes)
  | number (n : Int)
  deriving DecidableEq, Repr

structure Flag where
  name : Bytes
  letter : Option UInt8
  kind : FlagKind
  /-- What holds if the flag is not given, as help shows it; nothing is shown if it is empty. -/
  shownDefault : Bytes
  description : Bytes
  deriving DecidableEq, Repr

inductive FlagError where
  | malformed (argument : Bytes)
  | unknown (name : Bytes)
  | unknownLetter (letter : UInt8) (cluster : Bytes)
  | noValue (argument : Bytes)
  | noLetterValue (letter : UInt8) (cluster : Bytes)
  | invalid (flag : Flag) (value reason : Bytes)
  deriving DecidableEq, Repr

def Flag.spelled (f : Flag) : Bytes :=
  match f.letter with
  | some letter => text "-" ++ [letter] ++ text ", --" ++ f.name
  | none => text "--" ++ f.name

def FlagError.message : FlagError → Bytes
  | malformed a => text "bad flag syntax: " ++ a
  | unknown name => text "unknown flag: --" ++ name
  | unknownLetter letter cluster =>
    text "unknown shorthand flag: " ++ Quoted.character (Char.ofNat letter.toNat) ++ text " in -" ++ cluster
  | noValue a => text "flag needs an argument: " ++ a
  | noLetterValue letter cluster =>
    text "flag needs an argument: " ++ Quoted.character (Char.ofNat letter.toNat) ++ text " in -" ++ cluster
  | invalid f value reason =>
    text "invalid argument " ++ Quoted.string value ++ text " for " ++ Quoted.string f.spelled ++
      text " flag: " ++ reason

/-! ### Values -/

def truths : List (Bytes × Bool) :=
  [(text "1", true), (text "t", true), (text "T", true), (text "TRUE", true), (text "true", true),
   (text "True", true), (text "0", false), (text "f", false), (text "F", false), (text "FALSE", false),
   (text "false", false), (text "False", false)]

def unreadable (reader value reason : Bytes) : Bytes :=
  text "strconv." ++ reader ++ text ": parsing " ++ Quoted.string value ++ text ": " ++ reason

/-- The value a text spells, or why it spells none. -/
def FlagKind.read (t : Bytes) : FlagKind → Except Bytes FlagValue
  | word => .ok (.word t)
  | truth =>
    match truths.lookup t with
    | some b => .ok (.truth b)
    | none => .error (unreadable (text "ParseBool") t Literal.Fault.malformed.message)
  | number =>
    match Literal.integer t with
    | .ok n => .ok (.number n)
    | .error e => .error (unreadable (text "ParseInt") t e.message)

/-! ### Arguments -/

/-- The flags that were given, the last first, and the other arguments in order. -/
structure Parsed where
  given : List (Bytes × FlagValue)
  arguments : List Bytes
  deriving DecidableEq, Repr

namespace Parsed

def truth (p : Parsed) (name : String) : Bool :=
  match p.given.lookup (text name) with
  | some (.truth b) => b
  | _ => false

def word? (p : Parsed) (name : String) : Option Bytes :=
  match p.given.lookup (text name) with
  | some (.word t) => some t
  | _ => none

def number? (p : Parsed) (name : String) : Option Int :=
  match p.given.lookup (text name) with
  | some (.number n) => some n
  | _ => none

def set (p : Parsed) (f : Flag) (value : Bytes) : Except FlagError Parsed :=
  match f.kind.read value with
  | .ok v => .ok { p with given := (f.name, v) :: p.given }
  | .error reason => .error (.invalid f value reason)

end Parsed

/-- A flag whose value is to come, and the fault if none comes. -/
structure Waiting where
  flag : Flag
  missing : FlagError

/-- A text before and behind its first equals sign, if it has one. -/
def splitValue (t : Bytes) : Bytes × Option Bytes :=
  match t.span (· ≠ 0x3D) with
  | (name, _ :: value) => (name, some value)
  | (name, []) => (name, none)

/-- Takes a flag by its long name: the argument after its two dashes. -/
def takeLong (flags : List Flag) (p : Parsed) (argument : Bytes) :
    Except FlagError (Parsed × Option Waiting) :=
  let body := argument.drop 2
  if body.head? = some 0x2D ∨ body.head? = some 0x3D then .error (.malformed argument)
  else
    let (name, value) := splitValue body
    match flags.find? fun f => f.name = name, value with
    | none, _ => .error (.unknown name)
    | some f, some value => (p.set f value).map fun p => (p, none)
    | some f, none =>
      if f.kind = .truth then (p.set f (text "true")).map fun p => (p, none)
      else .ok (p, some ⟨f, .noValue argument⟩)

/-- Takes the flags of a cluster of letters. A cluster that starts with `test.` is passed over. -/
def takeLetters (flags : List Flag) (p : Parsed) : Bytes → Except FlagError (Parsed × Option Waiting)
  | [] => .ok (p, none)
  | letter :: rest =>
    if (text "test.").isPrefixOf (letter :: rest) then .ok (p, none)
    else
      match flags.find? fun f => f.letter = some letter with
      | none => .error (.unknownLetter letter (letter :: rest))
      | some f =>
        match rest with
        | [] =>
          if f.kind = .truth then (p.set f (text "true")).map fun p => (p, none)
          else .ok (p, some ⟨f, .noLetterValue letter (letter :: rest)⟩)
        | next :: after =>
          if next = 0x3D ∧ after ≠ [] then (p.set f after).map fun p => (p, none)
          else if f.kind = .truth then
            match p.set f (text "true") with
            | .ok p => takeLetters flags p (next :: after)
            | .error e => .error e
          else (p.set f (next :: after)).map fun p => (p, none)

/-- Whether an argument is no flag: it does not start with a dash, or is one. -/
def isPlain (argument : Bytes) : Bool := argument.head? ≠ some 0x2D || argument.length = 1

/-- Goes through the arguments from the left. -/
def parseFrom (flags : List Flag) : Option Waiting → Parsed → List Bytes → Except FlagError Parsed
  | none, p, [] => .ok p
  | some w, _, [] => .error w.missing
  | some w, p, argument :: rest =>
    match p.set w.flag argument with
    | .ok p => parseFrom flags none p rest
    | .error e => .error e
  | none, p, argument :: rest =>
    if isPlain argument then
      parseFrom flags none { p with arguments := p.arguments ++ [argument] } rest
    else if argument = text "--" then .ok { p with arguments := p.arguments ++ rest }
    else
      let taken :=
        if (text "--").isPrefixOf argument then takeLong flags p argument
        else takeLetters flags p (argument.drop 1)
      match taken with
      | .ok (p, waiting) => parseFrom flags waiting p rest
      | .error e => .error e

def parse (flags : List Flag) (arguments : List Bytes) : Except FlagError Parsed :=
  parseFrom flags none ⟨[], []⟩ arguments

end Chip8.Command
