import Chip8.Text.Numeral

/-!
What can go wrong with a program, and how an error keeps its kind on the way to the user. An
`AsmError` is a classified failure with the token it is about. An `ErrorChain` is an error under any
number of wrappers. What is asked of it, its kind or its line number, is looked for link by link from
the outermost wrapper to the error itself.
-/

namespace Chip8

/-- The class of a failure. The codes with a name are 1 to 9; 0 means no class. -/
structure Kind where
  code : Int
  deriving DecidableEq, Repr

namespace Kind

def none : Kind := ⟨0⟩
def unknownInstruction : Kind := ⟨1⟩
def notEnoughValues : Kind := ⟨2⟩
def notMemoryLocation : Kind := ⟨3⟩
def wrongRegister : Kind := ⟨4⟩
def wrongValue : Kind := ⟨5⟩
def emptyProgram : Kind := ⟨6⟩
def fileMissing : Kind := ⟨7⟩
def wrongFormat : Kind := ⟨8⟩
def modeMissing : Kind := ⟨9⟩

def names : List (Kind × String) :=
  [(unknownInstruction, "unknown instruction"), (notEnoughValues, "not enough values"),
   (notMemoryLocation, "not a memory location"), (wrongRegister, "wrong register"),
   (wrongValue, "wrong value"), (emptyProgram, "no instructions"),
   (fileMissing, "file does not exist"), (wrongFormat, "wrong file format"),
   (modeMissing, "mode does not exist")]

/-- The name of a kind; a code without a name is shown as a number. -/
def name (k : Kind) : Bytes :=
  match names.lookup k with
  | some s => text s
  | Option.none => text "kind(" ++ Numeral.signed k.code ++ text ")"

end Kind

/-- A classified failure: the offending token, if there is one, and a message for the user. -/
structure AsmError where
  kind : Kind
  token : Bytes
  detail : Bytes
  deriving DecidableEq, Repr

/-- The kind's name, and the detail after it if there is any. -/
def AsmError.message (e : AsmError) : Bytes :=
  if e.detail.isEmpty then e.kind.name else e.kind.name ++ text ": " ++ e.detail

/-- An error as it travels to the user: a plain text, a bare kind or a classified failure, under
wrappers that add a line number, put words around it, or mark it as already shown. -/
inductive ErrorChain where
  | plain (message : Bytes)
  | bare (kind : Kind)
  | classified (error : AsmError)
  | atLine (line : Int) (cause : ErrorChain)
  | within (before : Bytes) (cause : ErrorChain) (after : Bytes)
  | reported (cause : ErrorChain)
  deriving DecidableEq, Repr

namespace ErrorChain

def context (message : Bytes) (cause : ErrorChain) : ErrorChain := within (message ++ text ": ") cause []

def message : ErrorChain → Bytes
  | plain m => m
  | bare k => k.name
  | classified e => e.message
  | atLine n cause => text "line " ++ Numeral.signed n ++ text ": " ++ cause.message
  | within before cause after => before ++ cause.message ++ after
  | reported cause => cause.message

/-- The error and every error that a wrapper of it was put on, outermost first. -/
def links : ErrorChain → List ErrorChain
  | plain m => [plain m]
  | bare k => [bare k]
  | classified e => [classified e]
  | atLine n cause => atLine n cause :: cause.links
  | within before cause after => within before cause after :: cause.links
  | reported cause => reported cause :: cause.links

/-- The first classified failure of the chain. -/
def classified? (e : ErrorChain) : Option AsmError :=
  e.links.findSome? fun
    | classified a => some a
    | _ => none

/-- The first bare kind of the chain. -/
def bare? (e : ErrorChain) : Option Kind :=
  e.links.findSome? fun
    | bare k => some k
    | _ => none

/-- The kind that the chain carries: that of its classified failure, or else its bare kind. -/
def kind (e : ErrorChain) : Kind :=
  match e.classified? with
  | some a => a.kind
  | none => e.bare?.getD Kind.none

/-- Whether an error of the chain is of kind `k`. -/
def is (k : Kind) (e : ErrorChain) : Bool :=
  e.links.any fun
    | bare k' => k' = k
    | classified a => a.kind = k
    | _ => false

/-- The outermost line number of the chain and the error it was put on. -/
def line? (e : ErrorChain) : Option (Int × ErrorChain) :=
  e.links.findSome? fun
    | atLine n cause => some (n, cause)
    | _ => none

def isReported (e : ErrorChain) : Bool :=
  e.links.any fun
    | reported _ => true
    | _ => false

end ErrorChain

end Chip8
