import Chip8.Interaction
import Chip8.Settings.Basic
import Chip8.Text.Quoted
import Chip8.Yaml.Node

/-!
Settings from a YAML document. The document is a mapping whose keys name settings; a key that names
none is passed over, and so is a null. Every value that does not fit its setting is told, and the
others are taken. If a key stands twice in a mapping, only that is told and nothing of it is taken.

A merge key brings in the settings of other mappings that are not given beside it. To know what is
given, the keys beside it are read as data of any kind, and a key that is a collection cannot be
remembered: that ends the program. A reference is read as the node it refers to, unless it is met
inside itself or too much of a document is reached through references.
-/

namespace Chip8

namespace Settings

inductive Field where
  | device
  | baud
  | resetDelay
  | responseDelay
  | syncTries
  | retryDelay
  | loadBase
  | chunkSize
  deriving DecidableEq, Repr

def Field.keys : List (Bytes × Field) :=
  [(text "device", device), (text "baud", baud), (text "reset_delay", resetDelay),
   (text "response_delay", responseDelay), (text "sync_tries", syncTries),
   (text "retry_delay", retryDelay), (text "load_base", loadBase), (text "chunk_size", chunkSize)]

/-- What a node is read as. -/
inductive Target where
  | settings
  | field (f : Field)
  | key
  | any
  /-- A mapping that was begun, whose keys are texts only or data of any kind. -/
  | mapping (textKeys : Bool)
  deriving DecidableEq, Repr

def Target.name : Target → Bytes
  | settings => text "config.Config"
  | field .device | key => text "string"
  | field .baud | field .syncTries | field .chunkSize => text "int"
  | field .resetDelay | field .responseDelay | field .retryDelay => text "time.Duration"
  | field .loadBase => text "uint16"
  | any => text "interface \x7b\x7d"
  | mapping true => text "map[string]interface \x7b\x7d"
  | mapping false => text "map[interface \x7b\x7d]interface \x7b\x7d"

/-- A fault in a document. Lines are counted from 1. -/
inductive DecodeFault where
  | wrongType (line : Nat) (tag value target : Bytes)
  | repeatedKey (line : Nat) (key : Bytes) (first : Nat)
  | repeatedField (line : Nat) (key : Bytes)
  deriving DecidableEq, Repr

/-- A value as a fault shows it: only its start if it is long. -/
def DecodeFault.shownValue (value : Bytes) : Bytes :=
  if value.length > 10 then value.take 7 ++ text "..." else value

def DecodeFault.message : DecodeFault → Bytes
  | wrongType line tag value target =>
    text "line " ++ Numeral.decimal line ++ text ": cannot unmarshal " ++ tag ++
      (if tag = Yaml.Tag.sequence ∨ tag = Yaml.Tag.mapping then value
       else text " `" ++ shownValue value ++ text "`") ++
      text " into " ++ target
  | repeatedKey line key first =>
    text "line " ++ Numeral.decimal line ++ text ": mapping key " ++ Quoted.string key ++
      text " already defined at line " ++ Numeral.decimal first
  | repeatedField line key =>
    text "line " ++ Numeral.decimal line ++ text ": field " ++ key ++
      text " already set in type config.Config"

/-! ### Data -/

/-- A node read as data of any kind. Of a collection only the kind matters. -/
inductive Datum where
  | null
  | scalar (s : Yaml.Scalar)
  | sequence
  | mapping (textKeys : Bool)
  deriving DecidableEq, Repr

/-- The fault of remembering a collection as a key. -/
def Datum.crash? : Datum → Option Crash
  | sequence => some (.unhashable (text "[]interface \x7b\x7d"))
  | mapping textKeys => some (.unhashable (Target.mapping textKeys).name)
  | _ => none

def Datum.isSameKey : Datum → Datum → Bool
  | null, null => true
  | scalar a, scalar b => a.isSameKey b
  | _, _ => false

def Datum.ofText (t : Bytes) : Datum := .scalar (.string t)

/-! ### Reading -/

/-- Why the reading of a document ends early. -/
inductive Stop where
  | malformed
  | crash (c : Crash)
  deriving DecidableEq, Repr

/-- A document under way: the settings as they stand, what was wrong, how many nodes were read and how
many of them through a reference, the references being followed, and the keys that count as given,
if only keys that are not given are taken. -/
structure Decoding where
  settings : Settings
  faults : List DecodeFault
  count : Nat
  referred : Nat
  following : List Yaml.NodeId
  given : Option (List Datum)

def Decoding.start (s : Settings) : Decoding := ⟨s, [], 1, 0, [], none⟩

/-- Reading that may end early; what was taken until then stays. -/
abbrev Decode := ExceptT Stop (StateM Decoding)

def addFaults (faults : List DecodeFault) : Decode Unit :=
  modify fun d => { d with faults := d.faults ++ faults }

/-- Whether too large a part of the nodes is reached through references: nearly all of the first
400000, and less of more. -/
def isExcessive (referred count : Nat) : Bool :=
  referred > 100 && count > 1000 &&
    if count ≤ 400000 then referred * 100 > count * 99
    else if count ≥ 4000000 then referred * 10 > count
    else referred * 360000000 > count * (99 * 3600000 - 89 * (count - 400000))

def countNode : Decode Unit := do
  let d ← get
  let count := d.count + 1
  let referred := if d.following.isEmpty then d.referred else d.referred + 1
  set { d with count := count, referred := referred }
  if isExcessive referred count then throw .malformed

/-- Remembers a key that is given; tells whether it was given before. -/
def remember (given : List Datum) (key : Datum) : Decode (Bool × List Datum) :=
  match key.crash? with
  | some c => throw (.crash c)
  | none => return if given.any key.isSameKey then (true, given) else (false, key :: given)

/-! ### Scalars -/

/-- The settings with a field set to a scalar that is spelled `value`, if it fits. -/
def setField? (s : Settings) (value : Bytes) (scalar : Yaml.Scalar) : Field → Option Settings
  | .device => some { s with device := scalar.toText value }
  | .baud => scalar.toInt?.map fun a => { s with baud := a }
  | .resetDelay => scalar.toDuration?.map fun a => { s with resetDelay := a }
  | .responseDelay => scalar.toDuration?.map fun a => { s with responseDelay := a }
  | .syncTries => scalar.toInt?.map fun a => { s with syncTries := a }
  | .retryDelay => scalar.toDuration?.map fun a => { s with retryDelay := a }
  | .loadBase => scalar.toUInt16?.map fun a => { s with loadBase := a }
  | .chunkSize => scalar.toInt?.map fun a => { s with chunkSize := a }

/-- Reads a scalar. Gives the datum it is where one is wanted, and nothing if it does not fit. -/
def decodeScalar (line : Nat) (tag value : Bytes) (target : Target) : Decode (Option Datum) := do
  match Yaml.Scalar.read? tag value with
  | none => throw .malformed
  | some .null => return if target = .any then some .null else none
  | some s =>
    match target with
    | .any => return some (.scalar s)
    | .key => return some (.ofText (s.toText value))
    | .field f =>
      match setField? (← get).settings value s f with
      | some settings => do
        modify fun d => { d with settings := settings }
        return some .null
      | none => do
        addFaults [.wrongType line tag value target.name]
        return none
    | .settings | .mapping _ => do
      addFaults [.wrongType line tag value target.name]
      return none

/-! ### Mappings -/

/-- Two keys are the same if their nodes are of one kind and have one text; that of a collection is
empty. -/
def keyText : Yaml.Node → Nat × Bytes
  | .scalar _ _ value => (0, value)
  | .sequence _ _ _ => (1, [])
  | .mapping _ _ _ => (2, [])
  | .reference _ name _ => (3, name)

/-- The keys that stand again behind their first place. -/
def repeatedKeys : List Yaml.Node → List DecodeFault
  | [] => []
  | key :: rest =>
    (rest.filterMap fun again =>
      if keyText again = keyText key then
        some (.repeatedKey again.line (keyText again).2 key.line)
      else none) ++ repeatedKeys rest

def isMergeKey : Yaml.Node → Bool
  | .scalar _ tag value => tag = Yaml.Tag.merge && value = text "<<"
  | _ => false

variable (nodes : Array Yaml.Node)

def nodeAt (id : Yaml.NodeId) : Yaml.Node := nodes.getD id (.empty 0)

/-- The tag of a node, or of the one it refers to. -/
def tagOf (id : Yaml.NodeId) : Bytes :=
  match nodeAt nodes id with
  | .scalar _ tag _ | .sequence _ tag _ | .mapping _ tag _ => tag
  | .reference _ _ target =>
    match nodeAt nodes target with
    | .scalar _ tag _ | .sequence _ tag _ | .mapping _ tag _ => tag
    | .reference _ _ _ => []

/-- Whether all keys of a mapping are texts, merge keys apart. -/
def hasTextKeys (entries : List (Yaml.NodeId × Yaml.NodeId)) : Bool :=
  entries.all fun entry =>
    tagOf nodes entry.1 = Yaml.Tag.string || tagOf nodes entry.1 = Yaml.Tag.merge

/-- Whether a node can be merged: a mapping, or a reference to one. -/
def canMerge (id : Yaml.NodeId) : Bool :=
  match nodeAt nodes id with
  | .mapping _ _ _ => true
  | .reference _ _ target => (nodeAt nodes target).isMapping
  | _ => false

/-- The value of the last merge key. -/
def mergeSource? (entries : List (Yaml.NodeId × Yaml.NodeId)) : Option Yaml.NodeId :=
  (entries.filter fun entry => isMergeKey (nodeAt nodes entry.1)).getLast?.map Prod.snd

/-- Takes the entries of a mapping by `read`: those of settings as fields, those of any other mapping
for what reading them may find. Fields that are done already are told. -/
def takeEntries (read : Target → Yaml.NodeId → Decode (Option Datum)) (target : Target) :
    List (Yaml.NodeId × Yaml.NodeId) → List Field → Option (List Datum) → Decode (Option (List Datum))
  | [], _, given => return given
  | (keyId, valueId) :: rest, done, given => do
    if isMergeKey (nodeAt nodes keyId) then takeEntries read target rest done given
    else
      match ← read (if target = .mapping false then .any else .key) keyId with
      | none => takeEntries read target rest done given
      | some key => do
        let (known, given) ← match given with
          | none => pure (false, none)
          | some keys => do
            let (known, keys) ← remember keys key
            pure (known, some keys)
        if known then takeEntries read target rest done given
        else if target = .settings then
          match key with
          | .scalar (.string name) =>
            match Field.keys.lookup name with
            | none => takeEntries read target rest done given
            | some field =>
              if done.contains field then do
                addFaults [.repeatedField (nodeAt nodes keyId).line name]
                takeEntries read target rest done given
              else do
                let _ ← read (.field field) valueId
                takeEntries read target rest (field :: done) given
          | _ => takeEntries read target rest done given
        else if key.crash?.isSome then throw .malformed
        else do
          let _ ← read .any valueId
          takeEntries read target rest done given

/-- Brings in what the value of a merge key holds. The keys beside it count as given, unless it is
itself brought in by another. -/
def merge (read : Target → Yaml.NodeId → Decode (Option Datum)) (target : Target)
    (keys : List Yaml.NodeId) (source : Yaml.NodeId) : Decode Unit := do
  let outermost := (← get).given.isNone
  if outermost then do
    modify fun d => { d with given := some [] }
    keys.forM fun id => do
      match ← read .any id with
      | none => pure ()
      | some key => do
        let (_, given) ← remember ((← get).given.getD []) key
        modify fun d => { d with given := some given }
  let bring (id : Yaml.NodeId) : Decode Unit :=
    if canMerge nodes id then do
      let _ ← read target id
    else throw .malformed
  match nodeAt nodes source with
  | .sequence _ _ items => items.forM bring
  | _ => bring source
  if outermost then modify fun d => { d with given := none }

def decodeMapping (read : Target → Yaml.NodeId → Decode (Option Datum)) (target : Target) (line : Nat)
    (tag : Bytes) (entries : List (Yaml.NodeId × Yaml.NodeId)) : Decode (Option Datum) := do
  let repeated := repeatedKeys (entries.map fun entry => nodeAt nodes entry.1)
  if ¬repeated.isEmpty then do
    addFaults repeated
    return none
  else
    let target := if target = .any then .mapping (hasTextKeys nodes entries) else target
    match target with
    | .field _ | .key => do
      addFaults [.wrongType line tag [] target.name]
      return none
    | _ => do
      let given := (← get).given
      modify fun d => { d with given := none }
      let given ← takeEntries nodes read target entries [] given
      modify fun d => { d with given := given }
      match mergeSource? nodes entries with
      | none => pure ()
      | some source => merge nodes read target (entries.map Prod.fst) source
      match target with
      | .mapping textKeys => return some (.mapping textKeys)
      | _ => return some .null

/-- Reads a node as a target. References and collections lead at most `fuel` deep. -/
def decodeNode : Nat → Target → Yaml.NodeId → Decode (Option Datum)
  | 0, _, _ => throw .malformed
  | fuel + 1, target, id => do
    countNode
    match nodeAt nodes id with
    | .reference _ _ referred => do
      let following := (← get).following
      if following.contains id then throw .malformed
      else do
        modify fun d => { d with following := id :: following }
        let result ← decodeNode fuel target referred
        modify fun d => { d with following := following }
        return result
    | .scalar line tag value => decodeScalar line tag value target
    | .sequence line tag items =>
      if target = .any then do
        items.forM fun item => do
          let _ ← decodeNode fuel .any item
        return some .sequence
      else do
        addFaults [.wrongType line tag [] target.name]
        return none
    | .mapping line tag entries => decodeMapping nodes (decodeNode fuel) target line tag entries

/-! ### Documents -/

inductive DecodeError where
  | malformed
  | mistyped (faults : List DecodeFault)
  deriving DecidableEq, Repr

def DecodeError.message : DecodeError → Bytes
  | malformed => text "yaml: malformed document"
  | mistyped faults => text "yaml: unmarshal errors:" ++ faults.flatMap fun f => text "\n  " ++ f.message

/-- Settings with what a document says put over them, unless that ends the program. -/
def decode (s : Settings) (document : Bytes) : Except Crash (Settings × Option DecodeError) :=
  match Yaml.document document with
  | .error _ => .ok (s, some .malformed)
  | .ok none => .ok (s, none)
  | .ok (some document) =>
    let size := document.nodes.size + 2
    let depth := size * size
    match (decodeNode document.nodes depth .settings document.root).run (.start s) with
    | (.error (.crash c), _) => .error c
    | (.error .malformed, d) => .ok (d.settings, some .malformed)
    | (.ok _, d) => .ok (d.settings, if d.faults.isEmpty then none else some (.mistyped d.faults))

end Settings

end Chip8
