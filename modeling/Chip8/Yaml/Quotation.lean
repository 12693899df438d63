import Chip8.Yaml.Cursor

/-!
Scalars that run over words and lines: plain and quoted ones. Between two words stands a gap. A gap
within a line is kept. A gap that breaks the line is folded: one break reads as a blank, and of
several the first is dropped.
-/

namespace Chip8.Yaml

/-- What stands between two words of a scalar: blanks, or line breaks, the first of which is kept
apart from the others. -/
inductive Gap where
  | blanks (cs : List Char)
  | lines (first others : List Char)

namespace Gap

def text : Gap → List Char
  | blanks cs => cs
  | lines first others =>
    if first.head? = some lineFeed then (if others.isEmpty then [' '] else others)
    else first ++ others

def isLines : Gap → Bool
  | blanks _ => false
  | lines _ _ => true

/-- The gap at the place, behind the part `gap` of it. A tab on a new line left of `indent` is
refused. -/
def readFrom (indent : Nat) : Nat → Gap → Scan Gap
  | 0, gap => pure gap
  | steps + 1, gap => do
    let a ← Scan.peek 0
    if isBlank a then
      match gap with
      | blanks cs =>
        let a ← Scan.read
        Scan.need 1
        readFrom indent steps (.blanks (cs ++ [a]))
      | lines first others =>
        if a = tab && (← Scan.column) < indent then Scan.fault
        else do
          Scan.skip
          Scan.need 1
          readFrom indent steps (.lines first others)
    else if isBreak a then
      Scan.need 2
      let b ← Scan.readLine
      Scan.need 1
      match gap with
      | blanks _ => readFrom indent steps (.lines b [])
      | lines first others => readFrom indent steps (.lines first (others ++ b))
    else pure gap

def read (indent : Nat) (gap : Gap) : Scan Gap := do readFrom indent (← Scan.steps) gap

end Gap

/-! ### Plain scalars -/

/-- Whether a plain scalar ends before the characters `a` and `next`. -/
def endsPlain (inFlow : Bool) (a next : Char) : Bool :=
  (a = ':' && isGap next) ||
    (inFlow && (a = ',' || a = '?' || a = '[' || a = ']' || a = leftBrace || a = rightBrace))

/-- A word of a plain scalar, behind its characters read, last first. -/
def plainWordFrom (inFlow : Bool) : Nat → List Char → Scan (List Char)
  | 0, done => pure done.reverse
  | steps + 1, done => do
    let a ← Scan.peek 0
    if isGap a || endsPlain inFlow a (← Scan.peek 1) then pure done.reverse
    else do
      Scan.skip
      Scan.need 2
      plainWordFrom inFlow steps (a :: done)

/-- A plain scalar from the place on, behind the words `soFar` and the gap after them, and whether a
line break lies before the place behind it. -/
def plainFrom (inFlow : Bool) (indent : Nat) : Nat → List Char → Gap → Scan (List Char × Bool)
  | 0, soFar, gap => pure (soFar, gap.isLines)
  | steps + 1, soFar, gap => do
    Scan.need 4
    if (← get).atDocumentMark || (← Scan.peek 0) = '#' then pure (soFar, gap.isLines)
    else do
      let word ← plainWordFrom inFlow (← Scan.steps) []
      if word.isEmpty then pure (soFar, gap.isLines)
      else do
        let soFar := soFar ++ gap.text ++ word
        let a ← Scan.peek 0
        if !isBlank a && !isBreak a then pure (soFar, false)
        else do
          Scan.need 1
          let gap ← Gap.read indent (.blanks [])
          if !inFlow && (← Scan.column) < indent then pure (soFar, gap.isLines)
          else plainFrom inFlow indent steps soFar gap

def plainScalar (inFlow : Bool) (indent : Nat) : Scan (List Char × Bool) := do
  plainFrom inFlow indent (← Scan.steps) [] (.blanks [])

/-! ### Quoted scalars -/

/-- What a character stands for behind a backslash: itself or another one, or a code of so many
digits. -/
def escape? (a : Char) : Option (Char ⊕ Nat) :=
  if a = 'x' then some (.inr 2)
  else if a = 'u' then some (.inr 4)
  else if a = 'U' then some (.inr 8)
  else
    (([('0', 0x00), ('a', 0x07), ('b', 0x08), ('t', 0x09), (tab, 0x09), ('n', 0x0A), ('v', 0x0B),
       ('f', 0x0C), ('r', 0x0D), ('e', 0x1B), (' ', 0x20), (doubleQuote, 0x22), (singleQuote, 0x27),
       (backslash, 0x5C), ('N', 0x85), ('_', 0xA0), ('L', 0x2028), ('P', 0x2029)] :
        List (Char × Nat)).lookup a).map fun n => .inl (Char.ofNat n)

def codeChar? (digits : List Char) : Option Char := do
  let n ← digits.foldlM (fun value a => do return value * 16 + (← hexValue? a)) 0
  if n.isValidChar then some (Char.ofNat n) else none

/-- The character that the escape at the place stands for. -/
def escapedChar : Scan Char := do
  match escape? (← Scan.peek 1) with
  | none => Scan.fault
  | some (.inl a) => do
    Scan.skipMany 2
    return a
  | some (.inr count) => do
    Scan.skipMany 2
    Scan.need count
    match codeChar? (← (List.range count).mapM Scan.peek) with
    | none => Scan.fault
    | some a => do
      Scan.skipMany count
      return a

/-- A word of a quoted scalar, behind its characters read, last first, and whether it ends with an
escaped line break, which is passed. -/
def quotedWordFrom (single : Bool) : Nat → List Char → Scan (List Char × Bool)
  | 0, done => pure (done.reverse, false)
  | steps + 1, done => do
    let a ← Scan.peek 0
    let next ← Scan.peek 1
    if isGap a then pure (done.reverse, false)
    else if single && a = singleQuote && next = singleQuote then
      Scan.skipMany 2
      Scan.need 2
      quotedWordFrom single steps (a :: done)
    else if a = (if single then singleQuote else doubleQuote) then pure (done.reverse, false)
    else if !single && a = backslash && isBreak next then
      Scan.need 3
      Scan.skip
      Scan.skipLine
      pure (done.reverse, true)
    else do
      let a ← if !single && a = backslash then escapedChar else Scan.read
      Scan.need 2
      quotedWordFrom single steps (a :: done)

/-- A quoted scalar from the place on, behind the part `soFar`. -/
def quotedFrom (single : Bool) : Nat → List Char → Scan (List Char)
  | 0, _ => Scan.fault
  | steps + 1, soFar => do
    Scan.need 4
    if (← get).atDocumentMark || (← Scan.peek 0) = nul then Scan.fault
    else do
      let (word, broken) ← quotedWordFrom single (← Scan.steps) []
      Scan.need 1
      if (← Scan.peek 0) = (if single then singleQuote else doubleQuote) then
        Scan.skip
        pure (soFar ++ word)
      else do
        let gap ← Gap.read 0 (if broken then .lines [] [] else .blanks [])
        quotedFrom single steps (soFar ++ word ++ gap.text)

def quotedScalar (single : Bool) : Scan (List Char) := do
  Scan.skip
  quotedFrom single (← Scan.steps) []

end Chip8.Yaml
