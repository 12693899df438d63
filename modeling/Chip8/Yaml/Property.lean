import Chip8.Yaml.Cursor

/-!
What is said of nodes apart from their content: the directives in front of a document, and the
anchors and tags in front of a node. The address in a tag may hold bytes as percent signs with two
hexadecimal digits; they have to come in the groups of a UTF-8 sequence but need not be one.
-/

namespace Chip8.Yaml

inductive Directive where
  | version (major minor : Nat)
  | tag (handle uri : Bytes)
  deriving DecidableEq

/-- A tag as it is written: a handle, which may be empty, and what follows it. -/
structure WrittenTag where
  handle : Bytes
  suffix : Bytes
  deriving DecidableEq

def charBytes (cs : List Char) : Bytes := cs.flatMap Utf8.encode

/-! ### Tags -/

def bang : UInt8 := 0x21

/-- Whether a byte string is a handle between two exclamation marks. -/
def isHandle (t : Bytes) : Bool := t.length > 1 && t.getLast? = some bang

/-- The handle of a tag: a name between exclamation marks, of which the second may be missing. -/
def readHandle : Scan Bytes := do
  Scan.need 1
  if (← Scan.peek 0) ≠ '!' then Scan.fault
  else do
    Scan.skip
    let name ← Scan.takeWhile isNameChar
    if (← Scan.peek 0) = '!' then
      Scan.skip
      return bang :: charBytes name ++ [bang]
    else return bang :: charBytes name

def isUriChar (a : Char) : Bool :=
  isNameChar a || a = singleQuote || ";/?:@&=+$,.!~*()[]%".toList.contains a

/-- The byte that a percent sign and two hexadecimal digits at the place stand for. -/
def readOctet : Scan UInt8 := do
  Scan.need 3
  match (← Scan.peek 0) == '%', hexValue? (← Scan.peek 1), hexValue? (← Scan.peek 2) with
  | true, some high, some low => do
    Scan.skipMany 3
    return (high * 16 + low).toUInt8
  | _, _, _ => Scan.fault

def readTails : Nat → Scan Bytes
  | 0 => return []
  | n + 1 => do
    let b ← readOctet
    if Utf8.isTail b then return b :: (← readTails n) else Scan.fault

def readOctets : Scan Bytes := do
  let lead ← readOctet
  match leadByte? lead with
  | none => Scan.fault
  | some (length, _) => return lead :: (← readTails (length - 1))

def readUriFrom : Nat → Bytes → Scan Bytes
  | 0, done => return done
  | steps + 1, done => do
    let a ← Scan.peek 0
    if isUriChar a then
      let bytes ← if a = '%' then readOctets else Utf8.encode <$> Scan.read
      Scan.need 1
      readUriFrom steps (done ++ bytes)
    else return done

/-- The address of a tag, behind the part `head` of it, whose exclamation mark does not count. One of
them may be empty, but not both. -/
def readUri (head : Bytes) : Scan Bytes := do
  Scan.need 1
  if head.isEmpty ∧ ¬isUriChar (← Scan.peek 0) then Scan.fault
  else readUriFrom (← Scan.steps) (head.drop 1)

/-- The tag at the place: the whole address between angle brackets, or a handle and what follows it. -/
def readTag : Scan WrittenTag := do
  Scan.need 2
  let tag : WrittenTag ←
    if (← Scan.peek 1) = '<' then do
      Scan.skipMany 2
      let uri ← readUri []
      if (← Scan.peek 0) ≠ '>' then Scan.fault
      else do
        Scan.skip
        pure ⟨[], uri⟩
    else do
      let handle ← readHandle
      if isHandle handle then pure ⟨handle, ← readUri []⟩
      else do
        let suffix ← readUri handle
        pure (if suffix.isEmpty then ⟨[], [bang]⟩ else ⟨[bang], suffix⟩)
  Scan.need 1
  if isGap (← Scan.peek 0) then return tag else Scan.fault

/-! ### Anchors -/

/-- The name of an anchor or a reference whose mark stands at the place. -/
def readAnchor : Scan Bytes := do
  Scan.skip
  let name ← Scan.takeWhile isNameChar
  let a ← Scan.peek 0
  if name.isEmpty then Scan.fault
  else if isGap a || "?:,]%@".toList.contains a || a = grave || a = rightBrace then
    return charBytes name
  else Scan.fault

/-! ### Directives -/

/-- A number of one or two decimal digits. -/
def readVersionNumber : Scan Nat := do
  let digits ← Scan.takeWhile Char.isDigit
  if digits.isEmpty ∨ digits.length > 2 then Scan.fault
  else return digits.foldl (fun n a => n * 10 + (a.toNat - 0x30)) 0

def readVersion : Scan Directive := do
  Scan.skipBlanks
  let major ← readVersionNumber
  if (← Scan.peek 0) ≠ '.' then Scan.fault
  else do
    Scan.skip
    return .version major (← readVersionNumber)

def readTagDirective : Scan Directive := do
  Scan.skipBlanks
  let handle ← readHandle
  Scan.need 1
  if (handle ≠ [bang] ∧ ¬isHandle handle) ∨ ¬isBlank (← Scan.peek 0) then Scan.fault
  else do
    Scan.skipBlanks
    let uri ← readUri []
    Scan.need 1
    if isGap (← Scan.peek 0) then return .tag handle uri else Scan.fault

/-- The directive whose mark stands at the place. Its line is passed. -/
def readDirective : Scan Directive := do
  Scan.skip
  let name ← Scan.takeWhile isNameChar
  if ¬isGap (← Scan.peek 0) then Scan.fault
  else do
    let directive ←
      if name = "YAML".toList then readVersion
      else if name = "TAG".toList then readTagDirective
      else Scan.fault
    Scan.skipBlanks
    if (← Scan.peek 0) = '#' then Scan.skipToEnd
    let a ← Scan.peek 0
    if ¬isEnd a then Scan.fault
    else do
      if isBreak a then do
        Scan.need 2
        Scan.skipLine
      return directive

end Chip8.Yaml
