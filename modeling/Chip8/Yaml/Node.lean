import Chip8.Yaml.Scalar
import Chip8.Yaml.Token

/-!
The first document of a YAML text. Its nodes are numbered; collections hold the numbers of what is in
them, and a reference the number of the node it refers to, which may be one that the reference is
itself inside of. Every node has a tag, which was given or is the one its form implies, and the line
it starts on.

The rules of the grammar follow the tokens: a node may have an anchor and a tag in either order, and
is a scalar, a block or a collection in brackets. A key or a value that is left out is an empty
scalar.
-/

namespace Chip8.Yaml

/-- The number of a node in its document. -/
abbrev NodeId := Nat

/-- A node. Lines are counted from 1. -/
inductive Node where
  | scalar (line : Nat) (tag value : Bytes)
  | sequence (line : Nat) (tag : Bytes) (items : List NodeId)
  | mapping (line : Nat) (tag : Bytes) (entries : List (NodeId × NodeId))
  | reference (line : Nat) (name : Bytes) (target : NodeId)
  deriving DecidableEq, Repr

namespace Node

/-- A scalar without text and without a tag, on a line counted from 0. -/
def empty (line : Nat) : Node := .scalar (line + 1) Tag.null []

def line : Node → Nat
  | scalar line _ _ | sequence line _ _ | mapping line _ _ | reference line _ _ => line

def isMapping : Node → Bool
  | mapping _ _ _ => true
  | _ => false

end Node

/-- The nodes of a document and which of them is its content. -/
structure Document where
  nodes : Array Node
  root : NodeId

/-! ### The grammar -/

/-- What the reading of nodes goes by: the tokens to come, the tags that handles stand for, the nodes
so far and those that names stand for. -/
structure Reader where
  tokens : List Token
  handles : List (Bytes × Bytes)
  anchors : List (Bytes × NodeId)
  nodes : Array Node

namespace Reader

def kind (r : Reader) : Option TokenKind := r.tokens.head?.map Token.kind

def line (r : Reader) : Nat := (r.tokens.head?.map Token.line).getD 0

def skip (r : Reader) : Reader := { r with tokens := r.tokens.drop 1 }

def isAt (r : Reader) (kinds : List TokenKind) : Bool := r.kind.any kinds.contains

def add (r : Reader) (node : Node) : NodeId × Reader := (r.nodes.size, { r with nodes := r.nodes.push node })

def put (r : Reader) (id : NodeId) (node : Node) : Reader := { r with nodes := r.nodes.setIfInBounds id node }

/-- What is said of a node in front of it. -/
structure Properties where
  anchor : Option Bytes
  tag : Option Bytes
  /-- The line of the node, counted from 0. -/
  line : Nat

/-- The tag that a handle and a suffix stand for. -/
def resolveTag? (r : Reader) (t : WrittenTag) : Option Bytes :=
  if t.handle.isEmpty then some (Tag.short t.suffix)
  else (r.handles.lookup t.handle).map fun uri => Tag.short (uri ++ t.suffix)

def anchorAt (r : Reader) : Option Bytes × Reader :=
  match r.kind with
  | some (.anchor name) => (some name, r.skip)
  | _ => (none, r)

/-- A tag, if there is one; `none` if its handle stands for nothing. -/
def tagAt? (r : Reader) : Option (Option Bytes × Reader) :=
  match r.kind with
  | some (.tag t) => (r.resolveTag? t).map fun tag => (some tag, r.skip)
  | _ => some (none, r)

/-- The anchor and the tag of a node, in either order. -/
def properties? (r : Reader) : Option (Properties × Reader) := do
  let line := r.line
  let (anchor, r) := r.anchorAt
  let (tag, r) ← r.tagAt?
  let (anchor, r) := if anchor.isSome ∨ tag.isNone then (anchor, r) else r.anchorAt
  some (⟨anchor, tag, line⟩, r)

/-- The tag of a node: the one given, unless that leaves it open. -/
def Properties.tagOr (p : Properties) (implied : Bytes) : Bytes :=
  match p.tag with
  | some tag => if tag = text "!" then implied else tag
  | none => implied

def Properties.given (p : Properties) : Bool := p.anchor.isSome || p.tag.isSome

/-- Lets the name of a node stand for it. -/
def name (r : Reader) (p : Properties) (id : NodeId) : Reader :=
  match p.anchor with
  | some anchor => { r with anchors := (anchor, id) :: r.anchors }
  | none => r

def addScalar (r : Reader) (p : Properties) (value : Bytes) (plain : Bool) : NodeId × Reader :=
  let tag := p.tagOr (if plain then Scalar.plainTag value else Tag.string)
  let (id, r) := r.add (.scalar (p.line + 1) tag value)
  (id, r.name p id)

/-- The collections that a token opens. -/
inductive Shape where
  | sequence
  | bareSequence
  | flowSequence
  | mapping
  | flowMapping
  deriving DecidableEq

def Shape.isMapping : Shape → Bool
  | .mapping | .flowMapping => true
  | _ => false

/-- The collection that starts here, in brackets only unless `block` is set. A sequence without a
start token of its own is one only where `bare` is set. -/
def shape? (r : Reader) (block bare : Bool) : Option Shape :=
  match r.kind with
  | some .entry => if bare then some .bareSequence else none
  | some .flowSequenceStart => some .flowSequence
  | some .flowMappingStart => some .flowMapping
  | some .sequenceStart => if block then some .sequence else none
  | some .mappingStart => if block then some .mapping else none
  | _ => none

mutual

def node? (block bare : Bool) : Nat → Reader → Option (NodeId × Reader)
  | 0, _ => none
  | fuel + 1, r =>
    match r.kind with
    | some (.reference target) =>
      (r.anchors.lookup target).map fun id => r.skip.add (.reference (r.line + 1) target id)
    | _ => do
      let (p, r) ← r.properties?
      match r.shape? block bare with
      | some shape =>
        if shape.isMapping then do
          let tag := p.tagOr Tag.mapping
          let (id, r) := r.add (.mapping (p.line + 1) tag [])
          let (entries, r) ← entries? (shape = .flowMapping) true fuel (r.name p id).skip
          some (id, r.put id (.mapping (p.line + 1) tag entries))
        else do
          let tag := p.tagOr Tag.sequence
          let (id, r) := r.add (.sequence (p.line + 1) tag [])
          let r := r.name p id
          let (items, r) ← items? shape true fuel (if shape = .bareSequence then r else r.skip)
          some (id, r.put id (.sequence (p.line + 1) tag items))
      | none =>
        match r.kind with
        | some (.scalar value plain) =>
          let (id, r) := r.addScalar p (charBytes value) plain
          some (id, r.skip)
        | _ => if p.given then some (r.addScalar p [] true) else none

/-- The node that starts here, or an empty one on a line before any of the given tokens. -/
def nodeUnless? (stops : List TokenKind) (line : Nat) (block bare : Bool) :
    Nat → Reader → Option (NodeId × Reader)
  | 0, _ => none
  | fuel + 1, r =>
    if r.isAt stops then some (r.add (.empty line)) else node? block bare fuel r

def items? (shape : Shape) (first : Bool) : Nat → Reader → Option (List NodeId × Reader)
  | 0, _ => none
  | fuel + 1, r =>
    if shape = .flowSequence then
      if r.isAt [.flowSequenceEnd] then some ([], r.skip)
      else do
        if ¬first ∧ ¬r.isAt [.flowEntry] then none
        let r := if first then r else r.skip
        if r.isAt [.flowSequenceEnd] then some ([], r.skip)
        else do
          let (item, r) ← if r.isAt [.key] then pair? fuel r else node? false false fuel r
          let (items, r) ← items? shape false fuel r
          some (item :: items, r)
    else if r.isAt [.entry] then do
      let stops := if shape = .bareSequence then [.entry, .key, .value, .blockEnd] else [.entry, .blockEnd]
      let (item, r) ← nodeUnless? stops r.line true false fuel r.skip
      let (items, r) ← items? shape false fuel r
      some (item :: items, r)
    else if shape = .bareSequence then some ([], r)
    else if r.isAt [.blockEnd] then some ([], r.skip)
    else none

/-- The single entry, as a mapping of its own, that a key token starts in a flow sequence. -/
def pair? : Nat → Reader → Option (NodeId × Reader)
  | 0, _ => none
  | fuel + 1, r => do
    let line := r.line + 1
    let (id, r) := r.add (.mapping line Tag.mapping [])
    let r := r.skip
    let (key, r) ←
      if r.isAt [.value, .flowEntry, .flowSequenceEnd] then some (r.skip.add (.empty r.line))
      else node? false false fuel r
    let (value, r) ← flowValue? [.flowEntry, .flowSequenceEnd] fuel r
    some (id, r.put id (.mapping line Tag.mapping [(key, value)]))

/-- The value of a key in brackets, or an empty one before any of the given tokens. -/
def flowValue? (stops : List TokenKind) : Nat → Reader → Option (NodeId × Reader)
  | 0, _ => none
  | fuel + 1, r =>
    if r.isAt [.value] then nodeUnless? stops r.skip.line false false fuel r.skip
    else some (r.add (.empty r.line))

def entries? (flow first : Bool) : Nat → Reader → Option (List (NodeId × NodeId) × Reader)
  | 0, _ => none
  | fuel + 1, r =>
    if flow then
      if r.isAt [.flowMappingEnd] then some ([], r.skip)
      else do
        if ¬first ∧ ¬r.isAt [.flowEntry] then none
        let r := if first then r else r.skip
        if r.isAt [.flowMappingEnd] then some ([], r.skip)
        else if r.isAt [.key] then do
          let r := r.skip
          let (key, r) ← nodeUnless? [.value, .flowEntry, .flowMappingEnd] r.line false false fuel r
          let (value, r) ← flowValue? [.flowEntry, .flowMappingEnd] fuel r
          let (entries, r) ← entries? flow false fuel r
          some ((key, value) :: entries, r)
        else do
          let (key, r) ← node? false false fuel r
          let (value, r) := r.add (.empty r.line)
          let (entries, r) ← entries? flow false fuel r
          some ((key, value) :: entries, r)
    else if r.isAt [.key] then do
      let stops := [.key, .value, .blockEnd]
      let (key, r) ← nodeUnless? stops r.line true true fuel r.skip
      let (value, r) ←
        if r.isAt [.value] then nodeUnless? stops r.line true true fuel r.skip
        else some (r.add (.empty r.line))
      let (entries, r) ← entries? flow false fuel r
      some ((key, value) :: entries, r)
    else if r.isAt [.blockEnd] then some ([], r.skip)
    else none

end

def standardHandles : List (Bytes × Bytes) := [([bang], [bang]), ([bang, bang], Tag.standard)]

/-- The directives in front of a document, each at most once. -/
def directives? (versionSeen : Bool) : Nat → Reader → Option Reader
  | 0, _ => none
  | fuel + 1, r =>
    match r.kind with
    | some (.directive (.version major minor)) =>
      if versionSeen ∨ major ≠ 1 ∨ minor ≠ 1 then none else directives? true fuel r.skip
    | some (.directive (.tag handle uri)) =>
      if (r.handles.lookup handle).isSome then none
      else directives? versionSeen fuel { r.skip with handles := (handle, uri) :: r.handles }
    | _ => some r

/-- Whether a document is started by a mark or a directive. -/
def isMarked (r : Reader) : Bool :=
  match r.kind with
  | some (.directive _) | some .documentStart => true
  | _ => false

/-- Whether a document that was started by a mark has no content. -/
def isBare (r : Reader) : Bool := r.isMarked || r.isAt [.documentEnd, .textEnd]

/-- The first document; a text without one has none. The token behind the document has to be there. -/
def document? (tokens : List Token) : Option (Option Document) := do
  let fuel := 4 * tokens.length + 8
  let r : Reader := ⟨tokens.drop 1, [], [], #[]⟩
  if r.tokens.isEmpty then none
  else if r.isAt [.textEnd] then some none
  else do
    let marked := r.isMarked
    let r ← if marked then directives? false fuel r else some r
    if marked ∧ ¬r.isAt [.documentStart] then none
    let r := if marked then r.skip else r
    let r := { r with handles := r.handles ++ standardHandles }
    if r.tokens.isEmpty then none
    let (root, r) ← if marked ∧ r.isBare then some (r.add (.empty r.line)) else node? true false fuel r
    if r.tokens.isEmpty then none else some (some ⟨r.nodes, root⟩)

end Reader

/-- A text that is not valid YAML. -/
inductive SyntaxFault where
  | fault
  deriving DecidableEq, Repr

def document (t : Bytes) : Except SyntaxFault (Option Document) :=
  match Reader.document? (tokens (Input.ofBytes t)) with
  | none => .error .fault
  | some d => .ok d

end Chip8.Yaml
