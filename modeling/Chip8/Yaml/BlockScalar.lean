import Chip8.Yaml.Cursor

/-!
Block scalars: lines below a heading, indented deeper than what holds them. A literal one keeps its
line breaks; in a folded one a single break between two lines that do not start with a blank reads
as a blank. The heading may say how deep the lines are indented and what becomes of the breaks at
the end: by default one is kept.
-/

namespace Chip8.Yaml

/-- What becomes of the line breaks at the end. -/
inductive Chomp where
  | strip
  | clip
  | keep
  deriving DecidableEq

def chomp? (a : Char) : Option Chomp :=
  if a = '+' then some .keep else if a = '-' then some .strip else none

/-- A chomping mark at the place, if there is one. -/
def readChomp : Scan (Option Chomp) := do
  Scan.need 1
  match chomp? (← Scan.peek 0) with
  | none => return none
  | some chomp => do
    Scan.skip
    return some chomp

/-- A digit at the place, if there is one; it must not be zero. -/
def readDepth : Scan (Option Nat) := do
  Scan.need 1
  let a ← Scan.peek 0
  if a = '0' then Scan.fault
  else if a.isDigit then do
    Scan.skip
    return some (a.toNat - 0x30)
  else return none

/-- The marks of a heading in either order. -/
def readHeading : Scan (Chomp × Option Nat) := do
  match ← readChomp with
  | some chomp => return (chomp, ← readDepth)
  | none =>
    match ← readDepth with
    | some depth => return ((← readChomp).getD .clip, some depth)
    | none => return (.clip, none)

/-- Empty lines from the place on, behind the breaks of others: their breaks, and the deepest
indentation on the way. Without an `indent` all blanks count as indentation; a tab among them is
refused. -/
def emptyLinesFrom (indent : Option Nat) : Nat → List Char → Nat → Scan (List Char × Nat)
  | 0, breaks, deepest => pure (breaks, deepest)
  | steps + 1, breaks, deepest => do
    Scan.need 1
    skipIndent (← Scan.steps)
    let column ← Scan.column
    let deepest := max deepest column
    let a ← Scan.peek 0
    if a = tab && indent.all (column < ·) then Scan.fault
    else if isBreak a then
      Scan.need 2
      let b ← Scan.readLine
      emptyLinesFrom indent steps (breaks ++ b) deepest
    else pure (breaks, deepest)
where
  /-- Passes the blanks that are indentation. -/
  skipIndent : Nat → Scan Unit
    | 0 => pure ()
    | steps + 1 => do
      let column ← Scan.column
      if (← Scan.peek 0) = ' ' && indent.all (column < ·) then
        Scan.skip
        Scan.need 1
        skipIndent steps
      else pure ()

def emptyLines (indent : Option Nat) : Scan (List Char × Nat) := do
  emptyLinesFrom indent (← Scan.steps) [] 0

/-- What was read of a block scalar: its text, the break before the next line, the breaks of empty
lines after that one, and whether the line before started with a blank. -/
structure BlockText where
  soFar : List Char
  lead : List Char
  empties : List Char
  afterBlank : Bool

def blockLinesFrom (literal : Bool) (indent : Nat) : Nat → BlockText → Scan BlockText
  | 0, t => pure t
  | steps + 1, t => do
    let a ← Scan.peek 0
    if (← Scan.column) ≠ indent || a = nul then pure t
    else do
      let startsBlank := isBlank a
      let joint :=
        if !literal && !t.afterBlank && !startsBlank && t.lead.head? = some lineFeed then
          (if t.empties.isEmpty then [' '] else [])
        else t.lead
      let line ← Scan.takeWhile fun a => !isEnd a
      Scan.need 2
      let lead ← Scan.readLine
      let (empties, _) ← emptyLines (some indent)
      blockLinesFrom literal indent steps ⟨t.soFar ++ joint ++ t.empties ++ line, lead, empties, startsBlank⟩

/-- The block scalar whose indicator stands at the place, inside something indented by `outer`. -/
def blockScalar (literal : Bool) (outer : Int) : Scan (List Char) := do
  Scan.skip
  let (chomp, depth) ← readHeading
  Scan.skipBlanks
  if (← Scan.peek 0) = '#' then Scan.skipToEnd
  let a ← Scan.peek 0
  if ¬isEnd a then Scan.fault
  else do
    if isBreak a then do
      Scan.need 2
      Scan.skipLine
    let given := depth.map fun n => if outer ≥ 0 then outer.toNat + n else n
    let (empties, deepest) ← emptyLines given
    let indent := given.getD (max deepest (max (outer + 1) 1).toNat)
    Scan.need 1
    let t ← blockLinesFrom literal indent (← Scan.steps) ⟨[], [], empties, false⟩
    return t.soFar ++
      match chomp with
      | .strip => []
      | .clip => t.lead
      | .keep => t.lead ++ t.empties

end Chip8.Yaml
