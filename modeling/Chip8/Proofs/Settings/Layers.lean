import Chip8.Settings.Load

/-!
# Settings in layers

A layer gives values to some of the settings and leaves the others as they are beneath it. A decoder is
layered if a document without errors is such a layer to it: what the document says does not depend on the
settings it is put over.

The decoder of YAML is layered. Nothing in its reading of a document looks at the settings as they stand, it only
sets them (`Lays`), so a document comes to the same result over all settings, and the settings it gives are its
layer put over those beneath (`decode_eq_onto`).

The reading is a chain of steps that all have this property, each for its own reason, so the argument
goes along the readers and not along documents.
-/

namespace Chip8.Settings

/-- Values for some of the settings. -/
structure Layer where
  device : Option Bytes
  baud : Option Int
  resetDelay : Option Int
  responseDelay : Option Int
  syncTries : Option Int
  retryDelay : Option Int
  loadBase : Option UInt16
  chunkSize : Option Int
  deriving DecidableEq, Repr

namespace Layer

/-- The layer that leaves everything as it is. -/
def empty : Layer := ⟨none, none, none, none, none, none, none, none⟩

/-- The settings with the values of a layer put over them. -/
def onto (l : Layer) (s : Settings) : Settings where
  device := l.device.getD s.device
  baud := l.baud.getD s.baud
  resetDelay := l.resetDelay.getD s.resetDelay
  responseDelay := l.responseDelay.getD s.responseDelay
  syncTries := l.syncTries.getD s.syncTries
  retryDelay := l.retryDelay.getD s.retryDelay
  loadBase := l.loadBase.getD s.loadBase
  chunkSize := l.chunkSize.getD s.chunkSize

def above (upper lower : Layer) : Layer where
  device := upper.device.or lower.device
  baud := upper.baud.or lower.baud
  resetDelay := upper.resetDelay.or lower.resetDelay
  responseDelay := upper.responseDelay.or lower.responseDelay
  syncTries := upper.syncTries.or lower.syncTries
  retryDelay := upper.retryDelay.or lower.retryDelay
  loadBase := upper.loadBase.or lower.loadBase
  chunkSize := upper.chunkSize.or lower.chunkSize

@[simp] theorem empty_onto (s : Settings) : empty.onto s = s := rfl

theorem above_onto (upper lower : Layer) (s : Settings) : (upper.above lower).onto s = upper.onto (lower.onto s) := by
  simp only [above, onto, Option.getD_or]

/-- The layer of one field, if the scalar fits it. -/
def ofField? (value : Bytes) (scalar : Yaml.Scalar) : Field → Option Layer
  | .device => some { empty with device := some (scalar.toText value) }
  | .baud => scalar.toInt?.map fun a => { empty with baud := some a }
  | .resetDelay => scalar.toDuration?.map fun a => { empty with resetDelay := some a }
  | .responseDelay => scalar.toDuration?.map fun a => { empty with responseDelay := some a }
  | .syncTries => scalar.toInt?.map fun a => { empty with syncTries := some a }
  | .retryDelay => scalar.toDuration?.map fun a => { empty with retryDelay := some a }
  | .loadBase => scalar.toUInt16?.map fun a => { empty with loadBase := some a }
  | .chunkSize => scalar.toInt?.map fun a => { empty with chunkSize := some a }

end Layer

/-- A document without errors puts one layer over whatever settings it is put over. -/
def Decoder.Layered (decoder : Decoder) : Prop :=
  ∀ document s t, decoder.decode s document = .ok (t, none) →
    ∃ file : Layer, ∀ s', decoder.decode s' document = .ok (file.onto s', none)

/-- Whether a scalar fits a field does not depend on the settings, and nor does what it sets. -/
theorem setField?_eq (s : Settings) (value : Bytes) (scalar : Yaml.Scalar) (f : Field) :
    setField? s value scalar f = (Layer.ofField? value scalar f).map fun l => l.onto s := by
  cases f with
  | device => rfl
  | _ => simp only [setField?, Layer.ofField?, Option.map_map]; rfl

/-! ### Steps that only set -/

variable {α β : Type}

/-- The step goes on in the same way over all settings, and puts one layer over them. -/
def Lays (m : Decode α) : Prop :=
  ∀ d : Decoding, ∃ (r : Except Stop α) (d' : Decoding) (l : Layer),
    ∀ s, m.run { d with settings := s } = (r, { d' with settings := l.onto s })

theorem lays_pure (a : α) : Lays (pure a) := fun d => ⟨.ok a, d, .empty, fun _ => rfl⟩

theorem lays_throw (stop : Stop) : Lays (throw stop : Decode α) := fun d => ⟨.error stop, d, .empty, fun _ => rfl⟩

theorem lays_bind {m : Decode α} {f : α → Decode β} (hm : Lays m) (hf : ∀ a, Lays (f a)) : Lays (m >>= f) := by
  intro d
  obtain ⟨r, d₁, lower, hfirst⟩ := hm d
  cases r with
  | error stop =>
    refine ⟨.error stop, d₁, lower, fun s => ?_⟩
    rw [ExceptT.run_bind]
    show (m.run >>= _) { d with settings := s } = _
    simp only [bind, StateT.bind, hfirst]
    rfl
  | ok a =>
    obtain ⟨r, d₂, upper, hsecond⟩ := hf a d₁
    refine ⟨r, d₂, upper.above lower, fun s => ?_⟩
    rw [Layer.above_onto, ← hsecond, ExceptT.run_bind]
    show (m.run >>= _) { d with settings := s } = _
    simp only [bind, StateT.bind, hfirst]

theorem lays_ite {c : Prop} [Decidable c] {t e : Decode α} (ht : Lays t) (he : Lays e) : Lays (if c then t else e) := by
  split
  · exact ht
  · exact he

theorem run_get_bind (k : Decoding → Decode α) (d : Decoding) : (get >>= k).run d = (k d).run d := rfl

/-- A step that looks at what is known beside the settings. -/
theorem lays_get_bind {k : Decoding → Decode α} (hsame : ∀ d s, k { d with settings := s } = k d)
    (hk : ∀ d, Lays (k d)) : Lays (get >>= k) := by
  intro d
  obtain ⟨r, d', l, hrun⟩ := hk d d
  refine ⟨r, d', l, fun s => ?_⟩
  rw [← hrun, run_get_bind, hsame]

theorem lays_modify {f : Decoding → Decoding} (hf : ∀ d s, f { d with settings := s } = { f d with settings := s }) :
    Lays (modify f) := by
  intro d
  refine ⟨.ok (), f d, .empty, fun s => ?_⟩
  show (Except.ok (), f { d with settings := s }) = _
  rw [hf]
  rfl

theorem lays_forM {f : α → Decode PUnit} (hf : ∀ a, Lays (f a)) (as : List α) : Lays (as.forM f) := by
  induction as with
  | nil => exact lays_pure _
  | cons a as ih => exact lays_bind (hf a) fun _ => ih

theorem lays_addFaults (faults : List DecodeFault) : Lays (addFaults faults) := lays_modify fun _ _ => rfl

theorem lays_countNode : Lays countNode := by
  intro d
  let counted : Decoding :=
    { d with count := d.count + 1, referred := if d.following.isEmpty then d.referred else d.referred + 1 }
  have hrun (s : Settings) : countNode.run { d with settings := s } =
      (if isExcessive counted.referred counted.count then throw Stop.malformed else pure () : Decode PUnit).run
        { counted with settings := s } := rfl
  obtain ⟨r, d', l, hrest⟩ := lays_ite (c := isExcessive counted.referred counted.count) (lays_throw Stop.malformed)
    (lays_pure PUnit.unit) counted
  exact ⟨r, d', l, fun s => (hrun s).trans (hrest s)⟩

theorem lays_remember (given : List Datum) (key : Datum) : Lays (remember given key) := by
  unfold remember
  cases key.crash? with
  | some c => exact lays_throw _
  | none => exact lays_pure _

/-! ### Scalars -/

theorem lays_decodeField (line : Nat) (tag value : Bytes) (scalar : Yaml.Scalar) (f : Field) :
    Lays (do
      match setField? (← get).settings value scalar f with
      | some settings => do
        modify fun d => { d with settings := settings }
        return some Datum.null
      | none => do
        addFaults [.wrongType line tag value (Target.field f).name]
        return none) := by
  intro d
  cases hfield : Layer.ofField? value scalar f with
  | none =>
    obtain ⟨r, d', l, hrun⟩ := lays_bind (lays_addFaults [.wrongType line tag value (Target.field f).name])
      (fun _ => lays_pure (none : Option Datum)) d
    refine ⟨r, d', l, fun s => ?_⟩
    rw [← hrun, run_get_bind, setField?_eq, hfield]
    rfl
  | some l =>
    refine ⟨.ok (some .null), d, l, fun s => ?_⟩
    rw [run_get_bind, setField?_eq, hfield]
    rfl

theorem lays_decodeScalar (line : Nat) (tag value : Bytes) (target : Target) :
    Lays (decodeScalar line tag value target) := by
  have hwrong : Lays (do
      addFaults [.wrongType line tag value target.name]
      return (none : Option Datum)) := lays_bind (lays_addFaults _) fun _ => lays_pure _
  unfold decodeScalar
  cases hread : Yaml.Scalar.read? tag value with
  | none => exact lays_throw _
  | some scalar =>
    cases target with
    | any => cases scalar <;> exact lays_pure _
    | key => cases scalar <;> exact lays_pure _
    | field f =>
      cases scalar with
      | null => exact lays_pure _
      | _ => exact lays_decodeField line tag value _ f
    | settings =>
      cases scalar with
      | null => exact lays_pure _
      | _ => exact hwrong
    | mapping _ =>
      cases scalar with
      | null => exact lays_pure _
      | _ => exact hwrong

/-! ### Mappings and nodes -/

variable (nodes : Array Yaml.Node) {read : Target → Yaml.NodeId → Decode (Option Datum)}

theorem lays_takeEntries (hread : ∀ target id, Lays (read target id)) (target : Target)
    (entries : List (Yaml.NodeId × Yaml.NodeId)) (done : List Field) (given : Option (List Datum)) :
    Lays (takeEntries nodes read target entries done given) := by
  induction entries generalizing done given with
  | nil => exact lays_pure _
  | cons entry rest ih =>
    obtain ⟨keyId, valueId⟩ := entry
    rw [takeEntries]
    refine lays_ite (ih done given) (lays_bind (hread _ keyId) fun key => ?_)
    cases key with
    | none => exact ih done given
    | some key =>
      dsimp -zeta only
      extract_lets goOn
      -- what is done with a key once it is known whether it was given before
      have hgoOn : ∀ x, Lays (goOn x) := by
        intro x
        unfold goOn
        refine lays_ite (ih done x.2) (lays_ite ?_ (lays_ite (lays_throw _) ?_))
        · split
          · split
            · exact ih done x.2
            · exact lays_ite (lays_bind (lays_addFaults _) fun _ => ih done x.2)
                (lays_bind (hread _ valueId) fun _ => ih _ x.2)
          · exact ih done x.2
        · exact lays_bind (hread _ valueId) fun _ => ih done x.2
      cases given with
      | none => exact lays_bind (lays_pure _) hgoOn
      | some keys => exact lays_bind (lays_remember keys key) fun _ => lays_bind (lays_pure _) hgoOn

theorem lays_given (given : Option (List Datum)) : Lays (modify fun d => { d with given := given }) :=
  lays_modify fun _ _ => rfl

theorem lays_following (following : List Yaml.NodeId) : Lays (modify fun d => { d with following := following }) :=
  lays_modify fun _ _ => rfl

theorem lays_merge (hread : ∀ target id, Lays (read target id)) (target : Target) (keys : List Yaml.NodeId)
    (source : Yaml.NodeId) : Lays (merge nodes read target keys source) := by
  unfold merge
  refine lays_get_bind (fun _ _ => rfl) fun d => ?_
  extract_lets outermost bring finish bringAll
  have hbring : ∀ id, Lays (bring id) := fun id =>
    lays_ite (lays_bind (hread target id) fun _ => lays_pure _) (lays_throw _)
  have hfinish : ∀ r, Lays (finish r) := fun _ => lays_ite (lays_given none) (lays_pure _)
  have hbringAll : ∀ r, Lays (bringAll r) := by
    intro _
    unfold bringAll
    split
    · exact lays_bind (lays_forM hbring _) hfinish
    · exact lays_bind (hbring source) hfinish
  refine lays_ite (lays_bind (lays_given (some [])) fun _ => lays_bind (lays_forM ?_ keys) hbringAll) (hbringAll ())
  intro id
  refine lays_bind (hread .any id) fun key => ?_
  cases key with
  | none => exact lays_pure _
  | some key =>
    refine lays_get_bind (fun _ _ => rfl) fun d => ?_
    exact lays_bind (lays_remember _ key) fun _ => lays_given _

theorem lays_decodeMapping (hread : ∀ target id, Lays (read target id)) (target : Target) (line : Nat) (tag : Bytes)
    (entries : List (Yaml.NodeId × Yaml.NodeId)) : Lays (decodeMapping nodes read target line tag entries) := by
  unfold decodeMapping
  extract_lets repeated target finish
  clear_value target
  have hfinish : ∀ r, Lays (finish r) := by
    intro _
    unfold finish
    cases target <;> exact lays_pure _
  refine lays_ite (lays_bind (lays_addFaults _) fun _ => lays_pure _) ?_
  split
  · exact lays_bind (lays_addFaults _) fun _ => lays_pure _
  · exact lays_bind (lays_addFaults _) fun _ => lays_pure _
  · refine lays_get_bind (fun _ _ => rfl) fun d => lays_bind (lays_given none) fun _ => ?_
    refine lays_bind (lays_takeEntries nodes hread target entries [] _) fun given => lays_bind (lays_given given) fun _ => ?_
    cases mergeSource? nodes entries with
    | none => exact hfinish ()
    | some source => exact lays_bind (lays_merge nodes hread target _ source) hfinish

theorem lays_decodeNode (fuel : Nat) (target : Target) (id : Yaml.NodeId) : Lays (decodeNode nodes fuel target id) := by
  induction fuel generalizing target id with
  | zero => exact lays_throw _
  | succ fuel ih =>
    rw [decodeNode]
    refine lays_bind lays_countNode fun _ => ?_
    cases nodeAt nodes id with
    | reference line name referred =>
      refine lays_get_bind (fun _ _ => rfl) fun d => lays_ite (lays_throw _) ?_
      exact lays_bind (lays_following _) fun _ => lays_bind (ih target referred) fun _ =>
        lays_bind (lays_following _) fun _ => lays_pure _
    | scalar line tag value => exact lays_decodeScalar line tag value target
    | sequence line tag items =>
      refine lays_ite (lays_bind (lays_forM (fun item => ?_) items) fun _ => lays_pure _)
        (lays_bind (lays_addFaults _) fun _ => lays_pure _)
      exact lays_bind (ih .any item) fun _ => lays_pure _
    | mapping line tag entries => exact lays_decodeMapping nodes ih target line tag entries

/-! ### Documents -/

/-- What a document comes to is the same over all settings: it ends the program, or it puts one layer over
them and reports the same. -/
theorem decode_eq_onto (document : Bytes) : ∃ outcome : Except Crash (Layer × Option DecodeError),
    ∀ s, decode s document = outcome.map fun result => (result.1.onto s, result.2) := by
  unfold decode
  cases Yaml.document document with
  | error _ => exact ⟨.ok (.empty, some .malformed), fun _ => rfl⟩
  | ok parsed =>
    cases parsed with
    | none => exact ⟨.ok (.empty, none), fun _ => rfl⟩
    | some parsed =>
      let size := parsed.nodes.size + 2
      obtain ⟨r, d, l, hnode⟩ := lays_decodeNode parsed.nodes (size * size) .settings parsed.root (.start default)
      have hrun (s : Settings) : (decodeNode parsed.nodes (size * size) .settings parsed.root).run (.start s) =
          (r, { d with settings := l.onto s }) := hnode s
      simp only [size] at hrun
      simp only [hrun]
      cases r with
      | error stop =>
        cases stop with
        | malformed => exact ⟨.ok (l, some .malformed), fun _ => rfl⟩
        | crash c => exact ⟨.error c, fun _ => rfl⟩
      | ok _ => exact ⟨.ok (l, if d.faults.isEmpty then none else some (.mistyped d.faults)), fun _ => rfl⟩

theorem layered_yaml : yaml.Layered := by
  intro document s t h
  obtain ⟨outcome, houtcome⟩ := decode_eq_onto document
  have hdecode : outcome.map (fun result => (result.1.onto s, result.2)) = .ok (t, none) := (houtcome s).symm.trans h
  cases outcome with
  | error c => cases hdecode
  | ok result =>
    obtain ⟨l, e⟩ := result
    obtain rfl : e = none := (Prod.mk.inj (Except.ok.inj hdecode)).2
    exact ⟨l, houtcome⟩

end Chip8.Settings
