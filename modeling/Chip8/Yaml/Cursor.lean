import Chip8.Yaml.Input

/-!
A place in a YAML text: what is still to be read and how far it is from the start, in characters,
lines and columns. A line may end in CR, LF, both, NEL, LS or PS; the first four read as one LF.

Only a window of the text is at hand, and it is filled up by a portion whenever more characters are
looked for than it holds. That is when a fault in a portion comes to light. Behind the end of the
text stand NULs.
-/

namespace Chip8.Yaml

structure Cursor where
  /-- The characters at hand, from the place on. -/
  window : List Char
  later : Input
  /-- Whether the window began with a byte order mark when it was last filled. -/
  marked : Bool
  index : Nat
  line : Nat
  column : Nat
  /-- The line breaks passed since the last character that is no blank. -/
  breaks : Nat

/-! ### Characters -/

def nul : Char := Char.ofNat 0x00
def tab : Char := Char.ofNat 0x09
def lineFeed : Char := Char.ofNat 0x0A
def carriageReturn : Char := Char.ofNat 0x0D
def singleQuote : Char := Char.ofNat 0x27
def doubleQuote : Char := Char.ofNat 0x22
def backslash : Char := Char.ofNat 0x5C
def byteOrderChar : Char := Char.ofNat 0xFEFF
def grave : Char := Char.ofNat 0x60
def leftBrace : Char := Char.ofNat 0x7B
def rightBrace : Char := Char.ofNat 0x7D

def isBlank (c : Char) : Bool := c = ' ' || c = tab

def isBreak (c : Char) : Bool :=
  c = carriageReturn || c = lineFeed || c.toNat = 0x85 || c.toNat = 0x2028 || c.toNat = 0x2029

/-- Whether a line ends at a character, or the text. -/
def isEnd (c : Char) : Bool := isBreak c || c = nul

/-- Whether a word ends at a character: at a blank, a line break or the end of the text. -/
def isGap (c : Char) : Bool := isBlank c || isEnd c

/-- Whether a character may stand in a name. -/
def isNameChar (c : Char) : Bool := c.isAlphanum || c = '_' || c = '-'

def hexValue? (a : Char) : Option Nat :=
  if '0' ≤ a ∧ a ≤ '9' then some (a.toNat - 0x30)
  else if 'a' ≤ a ∧ a ≤ 'f' then some (a.toNat - 0x57)
  else if 'A' ≤ a ∧ a ≤ 'F' then some (a.toNat - 0x37)
  else none

namespace Cursor

def start (input : Input) : Cursor := ⟨[], input, false, 0, 0, 0, 0⟩

/-- How many characters are still to be read. -/
def left (c : Cursor) : Nat := c.window.length + c.later.portions.flatten.length

/-- The window with portions added until it holds `n` characters. At the end of the text one NUL is
added, and a fault is met in its place if the text has one. -/
def filled? (n : Nat) (sound : Bool) : List Char → List (List Char) → Option (List Char × List (List Char))
  | window, [] => if sound then some (window ++ [nul], []) else none
  | window, portion :: rest =>
    let window := window ++ portion
    if n ≤ window.length then some (window, rest) else filled? n sound window rest

/-- The cursor with at least `n` characters at hand, as far as the text goes. -/
def fill? (n : Nat) (c : Cursor) : Option Cursor :=
  if n ≤ (c.window.take n).length then some c
  else
    (filled? n c.later.sound c.window c.later.portions).map fun (window, portions) =>
      { c with
        window := window
        later := { c.later with portions := portions }
        marked := window.head? = some byteOrderChar }

def peek (c : Cursor) (n : Nat) : Char := c.window.getD n nul

/-- The place one character further on the same line. -/
def skip (c : Cursor) : Cursor :=
  { c with
    window := c.window.drop 1
    index := c.index + 1
    column := c.column + 1
    breaks := if isBlank (c.peek 0) then c.breaks else 0 }

/-- The place behind `n` characters of a line break. -/
def newLine (c : Cursor) (n : Nat) : Cursor :=
  { c with
    window := c.window.drop n
    index := c.index + n
    line := c.line + 1
    column := 0
    breaks := c.breaks + 1 }

/-- The line break at a place as it reads, and the place behind it. -/
def readLine (c : Cursor) : List Char × Cursor :=
  let a := c.peek 0
  if a = carriageReturn ∧ c.peek 1 = lineFeed then ([lineFeed], c.newLine 2)
  else if isBreak a then ([if a.toNat > 0x85 then a else lineFeed], c.newLine 1)
  else ([], c)

/-- Whether three characters that mark a document stand at the start of the line. -/
def atMark (c : Cursor) (mark : Char) : Bool :=
  c.column = 0 && c.peek 0 = mark && c.peek 1 = mark && c.peek 2 = mark && isGap (c.peek 3)

/-- Whether the start or the end of a document is marked here. -/
def atDocumentMark (c : Cursor) : Bool := c.atMark '-' || c.atMark '.'

end Cursor

/-! ### Reading -/

/-- Reading on from a place, which may meet a fault. -/
abbrev Scan := StateT Cursor Option

namespace Scan

def need (n : Nat) : Scan Unit := fun c => (c.fill? n).map fun c => ((), c)

def fault {α : Type} : Scan α := fun _ => none

def peek (n : Nat) : Scan Char := fun c => some (c.peek n, c)

def column : Scan Nat := fun c => some (c.column, c)

/-- A number of steps that is enough for anything that goes on in each of them. -/
def steps : Scan Nat := fun c => some (c.left + 2, c)

def skip : Scan Unit := fun c => some ((), c.skip)

def skipMany (n : Nat) : Scan Unit := fun c => some ((), (List.range n).foldl (fun c _ => c.skip) c)

def read : Scan Char := fun c => some (c.peek 0, c.skip)

/-- The line break at the place as it reads. -/
def readLine : Scan (List Char) := fun c => some c.readLine

def skipLine : Scan Unit := fun c => some ((), c.readLine.2)

/-- The characters that `p` holds of, behind those read, last first; at most as many as there are
steps. -/
def takeWhileFrom (p : Char → Bool) : Nat → List Char → Scan (List Char)
  | 0, done => pure done.reverse
  | steps + 1, done => do
    if p (← peek 0) then
      let a ← read
      need 1
      takeWhileFrom p steps (a :: done)
    else pure done.reverse

/-- The characters from the place on that `p` holds of. The end of the text must not be among them. -/
def takeWhile (p : Char → Bool) : Scan (List Char) := do
  need 1
  takeWhileFrom p (← steps) []

def skipWhile (p : Char → Bool) : Scan Unit := do
  let _ ← takeWhile p

def skipBlanks : Scan Unit := skipWhile isBlank

def skipToEnd : Scan Unit := skipWhile fun a => !isEnd a

end Scan

end Chip8.Yaml
