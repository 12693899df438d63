import Chip8.Yaml.BlockScalar
import Chip8.Yaml.Property
import Chip8.Yaml.Quotation

/-!
The tokens of a YAML text. Indentation becomes tokens of its own: where a deeper block starts a
start token stands, and where it ends an end token. A key need not be marked as one: what precedes a
colon on the same line becomes the key when the colon is met, and a key token is put in front of it
after the fact. Until then the place is remembered as one where a key may have begun.

Tokens are taken one by one, and the scanner keeps at least two ahead of the one that is taken; it
looks further ahead while the next one may still turn out to be a key. A key token whose place has
been taken already goes behind all others. The tokens of a text are those taken up to its end or to
the first fault that looking ahead meets.
-/

namespace Chip8.Yaml

inductive TokenKind where
  | textStart
  | directive (d : Directive)
  | documentStart
  | documentEnd
  | sequenceStart
  | mappingStart
  | blockEnd
  | flowSequenceStart
  | flowSequenceEnd
  | flowMappingStart
  | flowMappingEnd
  | entry
  | flowEntry
  | key
  | value
  | reference (name : Bytes)
  | anchor (name : Bytes)
  | tag (t : WrittenTag)
  | scalar (text : List Char) (plain : Bool)
  | textEnd
  deriving DecidableEq

/-- A token and the line it starts on, counted from 0. -/
structure Token where
  kind : TokenKind
  line : Nat
  deriving DecidableEq

/-- A place where a key may have begun. One that stands where the next key of an open mapping belongs
has to be a key. -/
structure KeyPlace where
  /-- Whether the place still counts. -/
  possible : Bool
  required : Bool
  /-- The number of the token that begins there. -/
  token : Nat
  index : Nat
  line : Nat
  column : Nat

/-- How far a text has been scanned. -/
structure Scanner where
  cursor : Cursor
  /-- The tokens that are not taken yet. -/
  queue : List Token
  /-- How many tokens have been taken. -/
  taken : Nat
  /-- The token scanned last. -/
  last : TokenKind
  /-- The indentation of the open block, and of those around it. -/
  indent : Int
  indents : List Int
  /-- Whether a key may begin here. -/
  keyAllowed : Bool
  /-- Where a key may have begun in the open brackets, and in each of those around them, the
  outermost being none. -/
  keyPlaces : List KeyPlace
  /-- The numbers of the tokens that may turn out to be keys, and how many brackets are around each. -/
  undecided : List (Nat × Nat)

namespace Scanner

/-- A place where no key begins. -/
def noKey (token : Nat) (c : Cursor) : KeyPlace := ⟨false, false, token, c.index, c.line, c.column⟩

def start? (input : Input) : Option Scanner :=
  (Cursor.start input).fill? 1 |>.map fun c =>
    ⟨c, [⟨.textStart, 0⟩], 0, .textStart, -1, [], true, [noKey 0 c], []⟩

/-- How many brackets are open. -/
def flowDepth (s : Scanner) : Nat := s.keyPlaces.length - 1

def inFlow (s : Scanner) : Bool := !(s.keyPlaces.drop 1).isEmpty

def scan? {α : Type} (s : Scanner) (m : Scan α) : Option (α × Scanner) :=
  (m.run s.cursor).map fun (a, c) => (a, { s with cursor := c })

def nextNumber (s : Scanner) : Nat := s.taken + s.queue.length

def push (s : Scanner) (kind : TokenKind) (line : Nat) : Scanner :=
  { s with queue := s.queue ++ [⟨kind, line⟩], last := kind }

/-- Puts a token in front of the token number `n`, or behind all if that one is taken. -/
def insert (s : Scanner) (n : Nat) (kind : TokenKind) (line : Nat) : Scanner :=
  if n < s.taken then { s with queue := s.queue ++ [⟨kind, line⟩] }
  else { s with queue := s.queue.take (n - s.taken) ++ ⟨kind, line⟩ :: s.queue.drop (n - s.taken) }

/-! ### Places where a key may have begun -/

/-- How far a colon may be from the start of its key. -/
def maxKeyLength : Nat := 1024

/-- Whether the colon of a key that began at a place could still come. -/
def isOpen (s : Scanner) (k : KeyPlace) : Bool :=
  k.possible && s.cursor.line ≤ k.line && s.cursor.index ≤ k.index + maxKeyLength

def forget (s : Scanner) (token : Nat) : Scanner :=
  { s with undecided := s.undecided.filter fun u => u.1 ≠ token }

def setKeyPlace (s : Scanner) (k : KeyPlace) : Scanner := { s with keyPlaces := k :: s.keyPlaces.drop 1 }

def keyPlace (s : Scanner) : KeyPlace := s.keyPlaces.headD (noKey 0 s.cursor)

/-- Gives up on the place where a key may have begun. -/
def dropKey? (s : Scanner) : Option Scanner :=
  let k := s.keyPlace
  if ¬k.possible then some s
  else if k.required then none
  else some ((s.setKeyPlace { k with possible := false }).forget k.token)

def noteKey? (s : Scanner) : Option Scanner :=
  if ¬s.keyAllowed then some s
  else
    let c := s.cursor
    let place : KeyPlace := ⟨true, !s.inFlow && s.indent = c.column, s.nextNumber, c.index, c.line, c.column⟩
    s.dropKey?.map fun s =>
      let s := (s.setKeyPlace place).forget place.token
      { s with undecided := (place.token, s.flowDepth) :: s.undecided }

/-! ### Indentation -/

/-- How many blocks, and how many brackets, may be open at once. -/
def maxDepth : Nat := 10000

/-- Opens a block at a column if it is deeper than the open one; its start token goes in front of
token `n`. -/
def openBlock? (s : Scanner) (column n : Nat) (kind : TokenKind) (line : Nat) : Option Scanner :=
  if s.inFlow ∨ s.indent ≥ column then some s
  else if s.indents.length ≥ maxDepth then none
  else some { s.insert n kind line with indent := column, indents := s.indent :: s.indents }

/-- Closes the blocks that are deeper than a column. -/
def closeBlocksWithin (column : Int) (line : Nat) : List Int → Scanner → Scanner
  | [], s => s
  | outer :: rest, s =>
    if s.indent > column then
      closeBlocksWithin column line rest { s.push .blockEnd line with indent := outer, indents := rest }
    else s

def closeBlocks (s : Scanner) (column : Int) : Scanner :=
  if s.inFlow then s else closeBlocksWithin column s.cursor.line s.indents s

/-! ### Between tokens -/

/-- How far the search for a comment looks ahead. -/
def commentReach : Nat := 512

/-- Where the next comment starts, from `n` places ahead on, if only blanks lie before it, or line
breaks too if `overLines` is set. A line break that takes more than a byte ends the search at the
place behind it. -/
def commentAhead (overLines : Bool) : Nat → Nat → Scan (Option Nat)
  | 0, _ => return none
  | reach + 1, n => do
    Scan.need (n + 1)
    let a ← Scan.peek n
    if isBlank a || (overLines && (a = carriageReturn || a = lineFeed)) then commentAhead overLines reach (n + 1)
    else if a = '#' then return some n
    else do
      if overLines && isBreak a && reach > 0 then Scan.need (n + 2)
      return none

/-- Passes characters up to an index, line breaks included. -/
def passTo (index : Nat) : Nat → Scan Unit
  | 0 => return ()
  | steps + 1 => do
    Scan.need 1
    if (← get).index ≥ index then return ()
    else do
      if isBreak (← Scan.peek 0) then
        Scan.need 2
        Scan.skipLine
      else Scan.skip
      passTo index steps

def passComment (n : Nat) : Scan Unit := do
  passTo ((← get).index + n) (← Scan.steps)
  Scan.skipToEnd

/-- Passes the comments that follow the line of one, with only blanks and line breaks between. -/
def passComments : Nat → Scan Unit
  | 0 => return ()
  | steps + 1 => do
    match ← commentAhead true commentReach 0 with
    | some n => do
      passComment n
      passComments steps
    | none => return ()

/-- Skips blanks, comments and line breaks. In a block, a line break is where a key may begin, and
where one may begin a tab is no blank. At the start of a line a character is passed if the window
was last filled at a byte order mark. Tells whether a key may begin. -/
def skipGap (inFlow : Bool) : Nat → Bool → Scan Bool
  | 0, allowed => return allowed
  | steps + 1, allowed => do
    Scan.need 1
    let c ← get
    if c.column = 0 ∧ c.marked then Scan.skip
    Scan.skipWhile fun a => a = ' ' || (a = tab && (inFlow || !allowed))
    if (← Scan.peek 0) = '#' then do
      passComment 0
      passComments (← Scan.steps)
    if isBreak (← Scan.peek 0) then
      Scan.need 2
      Scan.skipLine
      skipGap inFlow steps (allowed || !inFlow)
    else return allowed

/-- Skips a comment that follows a token on its line. -/
def skipLineComment : Scan Unit := do
  if (← get).breaks > 0 then return ()
  else
    match ← commentAhead false commentReach 0 with
    | some n => passComment n
    | none => return ()

/-! ### Tokens -/

/-- The scanner behind `n` characters that are a token. -/
def take (s : Scanner) (kind : TokenKind) (n : Nat) : Scanner :=
  { s.push kind s.cursor.line with cursor := (List.range n).foldl (fun c _ => c.skip) s.cursor }

/-- A token that ends every block: a directive, the mark of a document, or the end. -/
def closeAll? (s : Scanner) : Option Scanner :=
  (s.closeBlocks (-1)).dropKey?.map fun s => { s with keyAllowed := false }

/-- The end of the text, which counts as the start of a line. -/
def fetchEnd? (s : Scanner) : Option Scanner :=
  let c := s.cursor
  let s := if c.column = 0 then s else { s with cursor := { c with column := 0, line := c.line + 1 } }
  s.closeAll?.map fun s => s.push .textEnd s.cursor.line

def fetchDirective? (s : Scanner) : Option Scanner := do
  let s ← s.closeAll?
  let line := s.cursor.line
  let (directive, s) ← s.scan? readDirective
  some (s.push (.directive directive) line)

def fetchDocumentMark? (s : Scanner) (kind : TokenKind) : Option Scanner :=
  s.closeAll?.map fun s => s.take kind 3

def fetchFlowStart? (s : Scanner) (kind : TokenKind) : Option Scanner :=
  s.noteKey?.bind fun s =>
    let inner := noKey s.nextNumber s.cursor
    if s.flowDepth ≥ maxDepth then none
    else some { s.take kind 1 with keyAllowed := true, keyPlaces := inner :: s.keyPlaces }

def leaveFlow (s : Scanner) : Scanner :=
  if s.inFlow then { s.forget s.keyPlace.token with keyPlaces := s.keyPlaces.drop 1 } else s

def fetchFlowEnd? (s : Scanner) (kind : TokenKind) : Option Scanner :=
  s.dropKey?.map fun s => { s.leaveFlow.take kind 1 with keyAllowed := false }

def fetchFlowEntry? (s : Scanner) : Option Scanner :=
  s.dropKey?.map fun s => { s.take .flowEntry 1 with keyAllowed := true }

def fetchEntry? (s : Scanner) : Option Scanner := do
  if ¬s.inFlow ∧ ¬s.keyAllowed then none
  let s ← s.openBlock? s.cursor.column s.nextNumber .sequenceStart s.cursor.line
  let s ← s.dropKey?
  some { s.take .entry 1 with keyAllowed := true }

def fetchKey? (s : Scanner) : Option Scanner := do
  if ¬s.inFlow ∧ ¬s.keyAllowed then none
  let s ← s.openBlock? s.cursor.column s.nextNumber .mappingStart s.cursor.line
  let s ← s.dropKey?
  some { s.take .key 1 with keyAllowed := !s.inFlow }

/-- The value of a key that was marked as one, or of none. -/
def fetchMarkedValue? (s : Scanner) : Option Scanner :=
  if ¬s.inFlow ∧ ¬s.keyAllowed then none
  else
    (s.openBlock? s.cursor.column s.nextNumber .mappingStart s.cursor.line).map fun s =>
      { s.take .value 1 with keyAllowed := !s.inFlow }

def fetchValue? (s : Scanner) : Option Scanner :=
  let k := s.keyPlace
  if s.isOpen k then
    ((s.insert k.token .key k.line).openBlock? k.column k.token .mappingStart k.line).map fun s =>
      let s := (s.setKeyPlace { k with possible := false }).forget k.token
      { s.take .value 1 with keyAllowed := false }
  else if k.possible ∧ k.required then none
  else (s.setKeyPlace { k with possible := false }).fetchMarkedValue?

/-- An anchor, a reference, a tag or a quoted scalar, which may be a key: what `read` finds at the place. -/
def fetchKeyLike? (s : Scanner) (read : Scan TokenKind) : Option Scanner := do
  let s ← s.noteKey?
  let line := s.cursor.line
  let (kind, s) ← s.scan? read
  some { s.push kind line with keyAllowed := false }

def fetchPlain? (s : Scanner) : Option Scanner := do
  let s ← s.noteKey?
  let line := s.cursor.line
  let ((value, broken), s) ← s.scan? (plainScalar s.inFlow (s.indent + 1).toNat)
  some { s.push (.scalar value true) line with keyAllowed := broken }

def fetchBlockScalar? (s : Scanner) (literal : Bool) : Option Scanner := do
  let s ← s.dropKey?
  let line := s.cursor.line
  let (value, s) ← s.scan? (blockScalar literal s.indent)
  some { s.push (.scalar value false) line with keyAllowed := true }

/-- Whether a plain scalar can start with `a` before `next`. -/
def startsPlain (inFlow : Bool) (a next : Char) : Bool :=
  let indicator := "-?:,[]#&*!|>%@".toList.contains a || a = singleQuote || a = doubleQuote || a = grave ||
    a = leftBrace || a = rightBrace
  !(isGap a || indicator) || (a = '-' && !isBlank next) ||
    (!inFlow && (a = '?' || a = ':') && !isGap next)

def fetchHere? (s : Scanner) : Option Scanner :=
  let a := s.cursor.peek 0
  let next := s.cursor.peek 1
  if a = '[' then s.fetchFlowStart? .flowSequenceStart
  else if a = leftBrace then s.fetchFlowStart? .flowMappingStart
  else if a = ']' then s.fetchFlowEnd? .flowSequenceEnd
  else if a = rightBrace then s.fetchFlowEnd? .flowMappingEnd
  else if a = ',' then s.fetchFlowEntry?
  else if a = '-' ∧ isGap next then s.fetchEntry?
  else if a = '?' ∧ (s.inFlow ∨ isGap next) then s.fetchKey?
  else if a = ':' ∧ (s.inFlow ∨ isGap next) then s.fetchValue?
  else if a = '*' then s.fetchKeyLike? (.reference <$> readAnchor)
  else if a = '&' then s.fetchKeyLike? (.anchor <$> readAnchor)
  else if a = '!' then s.fetchKeyLike? (.tag <$> readTag)
  else if a = '|' ∧ ¬s.inFlow then s.fetchBlockScalar? true
  else if a = '>' ∧ ¬s.inFlow then s.fetchBlockScalar? false
  else if a = singleQuote ∨ a = doubleQuote then
    s.fetchKeyLike? ((.scalar · false) <$> quotedScalar (a = singleQuote))
  else if startsPlain s.inFlow a next then s.fetchPlain?
  else none

/-- Scans the next token. A comment on its line is passed, except behind the mark of an entry. -/
def fetch? (s : Scanner) : Option Scanner := do
  let (allowed, s) ← s.scan? (do
    Scan.need 1
    skipGap s.inFlow (← Scan.steps) s.keyAllowed)
  let s := { s with keyAllowed := allowed }
  let s := s.closeBlocks s.cursor.column
  let (_, s) ← s.scan? (Scan.need 4)
  let c := s.cursor
  if c.peek 0 = nul then s.fetchEnd?
  else if c.column = 0 ∧ c.peek 0 = '%' then s.fetchDirective?
  else if c.atMark '-' then s.fetchDocumentMark? .documentStart
  else if c.atMark '.' then s.fetchDocumentMark? .documentEnd
  else do
    let s ← s.fetchHere?
    if s.last = .entry then some s else (s.scan? skipLineComment).map Prod.snd

/-! ### Looking ahead -/

/-- How many tokens are kept ahead of the next one. -/
def lookahead : Nat := 2

/-- Whether the next token may still turn out to be a key. None if it has to be one and is not. -/
def mayBeKey? (s : Scanner) : Option (Bool × Scanner) :=
  match s.undecided.lookup s.taken with
  | none => some (false, s)
  | some depth =>
    let place := s.flowDepth - depth
    match s.keyPlaces[place]? with
    | none => none
    | some k =>
      if s.isOpen k then some (true, s)
      else if k.possible ∧ k.required then none
      else some (false, { s with keyPlaces := s.keyPlaces.set place { k with possible := false } })

/-- Scans until the next token is settled; at most `fuel` tokens. -/
def settle? : Nat → Scanner → Option Scanner
  | 0, _ => none
  | fuel + 1, s =>
    if s.queue.length ≤ lookahead then s.fetch?.bind (settle? fuel)
    else
      match s.mayBeKey? with
      | none => none
      | some (false, s) => some s
      | some (true, s) => s.fetch?.bind (settle? fuel)

/-- The tokens from the next one on, at most `fuel` of them, each settled before it is taken. -/
def tokensFrom (size : Nat) : Nat → Scanner → List Token
  | 0, _ => []
  | fuel + 1, s =>
    match settle? size s with
    | none => []
    | some s =>
      match s.queue with
      | [] => []
      | t :: rest =>
        if t.kind = .textEnd then [t]
        else t :: tokensFrom size fuel { s with queue := rest, taken := s.taken + 1 }

end Scanner

/-- The tokens of a text. If it is faulty they end before one that cannot be settled. -/
def tokens (input : Input) : List Token :=
  match Scanner.start? input with
  | none => []
  | some s =>
    let size := s.cursor.left + 8
    Scanner.tokensFrom size (8 * size) s

end Chip8.Yaml
