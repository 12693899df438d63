import Chip8.Proofs.Assembly.Roles

/-!
# Which operand is blamed

An error of a mnemonic with enough operands is about the first operand that cannot play its role: its token is
that operand, and its kind is the fault of that role (`blames_select`). The readers check their operands in
various orders and with various helpers, and some of them look at a later operand before they refuse an earlier
one, so this is shown reader by reader. What they share is `Reading.Plays`: the reading of one operand in one
role gives a value only if the operand can play it, and otherwise blames the operand.
-/

namespace Chip8

open Grammar

namespace Reading

variable {α β : Type} {P : AsmError → Prop} {r : Reading α} {role : Role} {op : Bytes}

/-- Every error that the step can end with has the property. -/
def Fails (r : Reading α) (P : AsmError → Prop) : Prop := ∀ e, r.run = some (.error e) → P e

theorem fails_pure (a : α) : Fails (pure a) P := by
  intro e h
  cases Option.some.inj h

theorem fails_throw {e : AsmError} (h : P e) : Fails (throw e : Reading α) P := by
  intro e' he
  obtain rfl : e = e' := Except.error.inj (Option.some.inj he)
  exact h

/-- The second step is taken only with a value of the first. -/
theorem fails_bind {f : α → Reading β} (hr : r.Fails P) (hf : ∀ a, r = pure a → (f a).Fails P) :
    (r >>= f).Fails P := by
  intro e h
  rw [ExceptT.run_bind] at h
  cases hresult : r.run with
  | none =>
    rw [hresult] at h
    cases h
  | some result =>
    rw [hresult] at h
    cases result with
    | error e' =>
      obtain rfl : e' = e := Except.error.inj (Option.some.inj h)
      exact hr e' hresult
    | ok a => exact hf a hresult e h

/-- The step reads an operand that has to play a role: a value shows that it can, and an error blames it. -/
structure Plays (r : Reading α) (role : Role) (op : Bytes) : Prop where
  admits : ∀ a, r = pure a → role.Admits op
  fails : r.Fails fun e => ¬role.Admits op ∧ e.kind = role.fault ∧ e.token = op

theorem plays_of_iff (hiff : role.Admits op ↔ ∃ a, r = pure a)
    (h : r.Fails fun e => e.kind = role.fault ∧ e.token = op) : r.Plays role op := by
  refine ⟨fun a ha => hiff.2 ⟨a, ha⟩, fun e he => ⟨fun hop => ?_, h e he⟩⟩
  obtain ⟨a, ha⟩ := hiff.1 hop
  rw [ha] at he
  cases Option.some.inj he

theorem plays_throw (role : Role) {e : AsmError} (h : ¬role.Admits op) (hkind : e.kind = role.fault) (htoken : e.token = op) :
    Plays (throw e : Reading α) role op :=
  ⟨fun a ha => absurd ha (throw_ne_pure e a), fails_throw ⟨h, hkind, htoken⟩⟩

theorem Plays.wrap (h : r.Plays role op) (f : α → β) : Plays (do return f (← r)) role op := by
  refine ⟨?_, fails_bind h.fails fun _ _ => fails_pure _⟩
  intro b hb
  obtain ⟨a, ha, -⟩ := wrap_eq_pure_iff.1 hb
  exact h.admits a ha

theorem Plays.congr {role' : Role} (h : r.Plays role op) (hiff : role'.Admits op ↔ role.Admits op)
    (hfault : role'.fault = role.fault) : r.Plays role' op := by
  refine ⟨fun a ha => hiff.2 (h.admits a ha), fun e he => ?_⟩
  rw [hiff, hfault]
  exact h.fails e he

end Reading

open Reading

/-! ### Reading one operand -/

namespace Operand

variable {α : Type} {P : AsmError → Prop} {name op : Bytes}

theorem fails_bounded {value : Option Nat} {make : Nat → α} {e : AsmError} : Fails (match value with
      | some n => pure (make n)
      | none => throw e) fun e' => e'.kind = e.kind ∧ e'.token = e.token := by
  cases value with
  | none => exact fails_throw ⟨rfl, rfl⟩
  | some n => exact fails_pure _

theorem fails_afterFirst (op : Bytes) : (afterFirst op).Fails P := by
  intro e h
  cases op with
  | nil => cases h
  | cons b rest => cases Option.some.inj h

theorem exists_lead?_eq (op : Bytes) : ∃ lead, lead? op = pure lead := by
  cases op with
  | nil => exact ⟨none, rfl⟩
  | cons b rest => exact ⟨leadDigit? b, rfl⟩

theorem not_registerText {op : Bytes} (h : ¬isRegister op = true) : ¬∃ x, RegisterText op x := by
  rintro ⟨x, hx⟩
  exact h (isRegister_of_registerText hx)

theorem not_byteText {op : Bytes} (h : isRegister op = true) : ¬∃ k, ByteText op k := by
  rintro ⟨k, hk⟩
  rw [isRegister_of_byteText hk] at h
  cases h

theorem plays_register (name op : Bytes) : (register name op).Plays .register op := by
  apply plays_of_iff
  · simp only [register_eq_pure_iff, Role.Admits]
  · unfold register
    split
    · exact fails_throw ⟨rfl, rfl⟩
    · exact fails_bind (fails_afterFirst op) fun digit _ => fails_bounded

theorem plays_hexByte (name op : Bytes) : (hexByte name op).Plays .mask op := by
  apply plays_of_iff
  · simp only [hexByte_eq_pure_iff, Role.Admits]
  · exact fails_bounded

theorem plays_nibble (name op : Bytes) : (nibble name op).Plays .rows op := by
  apply plays_of_iff
  · simp only [nibble_eq_pure_iff, Role.Admits]
  · unfold nibble
    split
    · exact fails_throw ⟨rfl, rfl⟩
    · exact fails_bounded

theorem plays_address (name op : Bytes) : (address name op).Plays .address op := by
  apply plays_of_iff
  · simp only [address_eq_pure_iff, Role.Admits]
  · obtain ⟨lead, hlead⟩ := exists_lead?_eq op
    rw [address, hlead, pure_bind]
    cases lead with
    | none => exact fails_throw ⟨rfl, rfl⟩
    | some page => exact fails_bind (fails_afterFirst op) fun rest _ => fails_bounded

theorem plays_comparand {makePair : Register → α} {makeByte : UInt8 → α} {e : AsmError}
    (hkind : e.kind = .wrongValue) (htoken : e.token = op) :
    Plays (if isRegister op then do return makePair (← register name op)
      else do
        match ← lead? op with
        | some _ => return makeByte (← byte name op)
        | none => throw e) .comparand op := by
  split
  · next hregister =>
    refine ((plays_register name op).wrap makePair).congr (or_iff_left ?_) rfl
    rintro ⟨k, hk⟩
    exact not_byteText hregister ⟨k, hk.1⟩
  · next hregister =>
    have hnone := not_registerText hregister
    obtain ⟨lead, hlead⟩ := exists_lead?_eq op
    rw [hlead, pure_bind]
    cases lead with
    | some d =>
      refine Plays.wrap ?_ makeByte
      apply plays_of_iff
      · simp only [byte_eq_pure_iff]
        exact or_iff_right hnone
      · rw [byte, hlead, pure_bind]
        exact fails_bounded
    | none =>
      refine plays_throw .comparand ?_ hkind htoken
      rintro (hx | ⟨k, hk⟩)
      · exact hnone hx
      · obtain ⟨d, hd⟩ := lead?_of_lowerByteText hk
        cases pure_inj.1 (hlead.symm.trans hd)

theorem plays_addend {makePair : Register → α} {makeByte : UInt8 → α} :
    Plays (if isRegister op then do return makePair (← register name op)
      else do return makeByte (← hexByte name op)) .addend op := by
  split
  · next h => exact ((plays_register name op).wrap makePair).congr (or_iff_left (not_byteText h)) rfl
  · next h => exact ((plays_hexByte name op).wrap makeByte).congr (or_iff_right (not_registerText h)) rfl

end Operand

/-! ### Reading the operands of a mnemonic -/

namespace Mnemonic

open Operand

/-- The error is about the first of the operands that cannot play its role. -/
def Blames (m : Mnemonic) (operands : List Bytes) (e : AsmError) : Prop :=
  ∃ before op rest role, operands = before ++ op :: rest ∧ m.Fits operands.length [] before ∧
    m.role? operands.length before = some role ∧ ¬role.Admits op ∧ e.kind = role.fault ∧ e.token = op

variable {α : Type} {m : Mnemonic} {name s t u : Bytes} {rest : List Bytes} {first second : Role} {r : Reading α}

theorem blames_first (hs : r.Plays first s) (hfirst : m.role? (rest.length + 1) [] = some first) :
    r.Fails (m.Blames (s :: rest)) := by
  intro e he
  exact ⟨[], s, rest, first, rfl, trivial, hfirst, hs.fails e he⟩

theorem blames_second (first : Role) (hfirst : m.role? (rest.length + 2) [] = some first) (hs : first.Admits s)
    (ht : r.Plays second t) (hsecond : m.role? (rest.length + 2) [s] = some second) :
    r.Fails (m.Blames (s :: t :: rest)) := by
  intro e he
  refine ⟨[s], t, rest, second, rfl, ⟨?_, trivial⟩, hsecond, ht.fails e he⟩
  simpa [hfirst] using hs

theorem blames_readPair {make : Register → Register → Instruction}
    (hfirst : m.role? (rest.length + 2) [] = some .register) (hsecond : m.role? (rest.length + 2) [s] = some .register) :
    (readPair name (s :: t :: rest) make).Fails (m.Blames (s :: t :: rest)) := by
  simp only [readPair, operandAt_cons_zero, operandAt_cons_succ, pure_bind]
  refine fails_bind (blames_first (plays_register name s) hfirst) fun x hx => ?_
  have hs := (plays_register name s).admits x hx
  exact blames_second .register hfirst hs ((plays_register name t).wrap _) hsecond

theorem blames_readJump : (readJump name (s :: rest)).Fails (jp.Blames (s :: rest)) := by
  simp only [readJump, operandAt_cons_zero, pure_bind]
  split
  · next hone =>
    obtain rfl : rest = [] := by simpa using hone
    exact blames_first ((plays_address name s).wrap _) rfl
  · next hmore =>
    obtain ⟨t, rest, rfl⟩ := List.exists_cons_of_ne_nil (by simpa using hmore : rest ≠ [])
    split
    · next hs => exact blames_first (plays_throw .base hs rfl rfl) (by simp [role?])
    · next hs =>
      obtain rfl : s = text "V0" := by simpa using hs
      exact blames_second .base (by simp [role?]) rfl ((plays_address name t).wrap _) (by simp [role?])

theorem blames_readSkip : (readSkip name (s :: t :: rest)).Fails (se.Blames (s :: t :: rest)) := by
  simp only [readSkip, operandAt_cons_zero, operandAt_cons_succ, pure_bind]
  refine fails_bind (blames_first (plays_register name s) rfl) fun x hx => ?_
  have hs := (plays_register name s).admits x hx
  exact blames_second .register rfl hs (plays_comparand rfl rfl) rfl

theorem isSome_specialSource?_iff : (specialSource? t).isSome ↔ t ∈ Role.specialSources := by
  unfold specialSource? Role.specialSources
  grind

theorem isSome_specialTarget?_iff : (specialTarget? t).isSome ↔ t ∈ Role.specialTargets := by
  unfold specialTarget? Role.specialTargets
  grind

theorem plays_readLoadInto (x : Register) : (readLoadInto name x t).Plays .source t := by
  have hiff : (specialSource? t).isSome ↔ t ∈ Role.specialSources := isSome_specialSource?_iff
  unfold readLoadInto
  cases hspecial : specialSource? t with
  | some make => exact ⟨fun _ _ => .inl (hiff.1 (by simp [hspecial])), fails_pure _⟩
  | none =>
    have hnone : t ∉ Role.specialSources := by simp [← hiff, hspecial]
    refine Plays.congr (plays_comparand ?_ ?_) (or_iff_right hnone) rfl
    · rfl
    · rfl

/-- The second operand is looked up first, but the first one is refused first. -/
theorem blames_readLoad : (readLoad name (s :: t :: rest)).Fails (ld.Blames (s :: t :: rest)) := by
  simp only [readLoad, operandAt_cons_zero, operandAt_cons_succ, pure_bind]
  split
  · next hregister =>
    obtain ⟨hindex, hspecial⟩ := Role.not_special_of_isRegister hregister
    have hs : (register name s).Plays .destination s :=
      (plays_register name s).congr (or_iff_left (by simp [hindex, hspecial])) rfl
    refine fails_bind (blames_first hs rfl) fun x hx => ?_
    exact blames_second .destination rfl (hs.admits x hx) (plays_readLoadInto x) (by simp [role?, hindex, hspecial])
  split
  · next hindex =>
    subst hindex
    exact blames_second .destination rfl (.inr (.inl rfl)) ((plays_address name t).wrap _) rfl
  next hregister hindex =>
  have hiff : (specialTarget? s).isSome ↔ s ∈ Role.specialTargets := isSome_specialTarget?_iff
  cases hspecial : specialTarget? s with
  | some make =>
    have hmem : s ∈ Role.specialTargets := hiff.1 (by simp [hspecial])
    refine blames_second .destination rfl (.inr (.inr hmem)) ((plays_register name t).wrap make) ?_
    simp [role?, hindex, hmem]
  | none =>
    refine blames_first (plays_throw .destination ?_ rfl rfl) rfl
    rintro (hx | hs | hmem)
    · exact not_registerText hregister hx
    · exact hindex hs
    · simp [← hiff, hspecial] at hmem

theorem blames_readAdd : (readAdd name (s :: t :: rest)).Fails (add.Blames (s :: t :: rest)) := by
  simp only [readAdd, operandAt_cons_zero, operandAt_cons_succ, pure_bind]
  split
  · next hindex =>
    subst hindex
    exact blames_second .sum rfl (.inl rfl) ((plays_register name t).wrap _) rfl
  split
  · next hindex hregister =>
    refine blames_first (plays_throw .sum ?_ rfl rfl) rfl
    rintro (hs | hx)
    · exact hindex hs
    · exact not_registerText hregister hx
  · next hindex hregister =>
    have hs : (register name s).Plays .sum s := (plays_register name s).congr (or_iff_right hindex) rfl
    refine fails_bind (blames_first hs rfl) fun x hx => ?_
    exact blames_second .sum rfl (hs.admits x hx) plays_addend (by simp [role?, hindex])

theorem blames_readRandom : (readRandom name (s :: t :: rest)).Fails (rnd.Blames (s :: t :: rest)) := by
  simp only [readRandom, operandAt_cons_zero, operandAt_cons_succ, pure_bind]
  refine fails_bind (blames_first (plays_register name s) rfl) fun x hx => ?_
  have hs := (plays_register name s).admits x hx
  exact blames_second .register rfl hs ((plays_hexByte name t).wrap _) rfl

theorem blames_readDraw : (readDraw name (s :: t :: u :: rest)).Fails (drw.Blames (s :: t :: u :: rest)) := by
  simp only [readDraw, operandAt_cons_zero, operandAt_cons_succ, pure_bind]
  refine fails_bind (blames_first (plays_register name s) rfl) fun x hx => ?_
  have hs := (plays_register name s).admits x hx
  refine fails_bind (blames_second .register rfl hs (plays_register name t) rfl) fun y hy => ?_
  have ht := (plays_register name t).admits y hy
  intro e he
  refine ⟨[s, t], u, rest, .rows, rfl, ⟨?_, ?_, trivial⟩, rfl, ((plays_nibble name u).wrap _).fails e he⟩
  · simpa [role?, arity] using hs
  · simpa [role?, arity] using ht

/-- A mnemonic with enough operands blames the first that cannot play its role. -/
theorem blames_select {operands : List Bytes} (h : m.arity ≤ operands.length) :
    (m.select operands).Fails (m.Blames operands) := by
  -- The operands that the readers look at are there, so the list can be taken apart as far as they look.
  match m, operands, h with
  | nop, _, _ | cls, _, _ | ret, _, _ => exact fails_pure _
  | jp, _ :: _, _ => exact blames_readJump
  | call, s :: _, _ => exact blames_first ((plays_address _ s).wrap _) rfl
  | skp, s :: _, _ | sknp, s :: _, _ => exact blames_first ((plays_register _ s).wrap _) rfl
  | se, _ :: _ :: _, _ => exact blames_readSkip
  | ld, _ :: _ :: _, _ => exact blames_readLoad
  | add, _ :: _ :: _, _ => exact blames_readAdd
  | rnd, _ :: _ :: _, _ => exact blames_readRandom
  | or, _ :: _ :: _, _ | and, _ :: _ :: _, _ | xor, _ :: _ :: _, _ | sub, _ :: _ :: _, _ | shr, _ :: _ :: _, _
  | subn, _ :: _ :: _, _ | shl, _ :: _ :: _, _ | sne, _ :: _ :: _, _ => exact blames_readPair rfl rfl
  | drw, _ :: _ :: _ :: _, _ => exact blames_readDraw

theorem not_fits_of_blames {operands : List Bytes} {e : AsmError} (h : m.Blames operands e) :
    ¬m.Fits operands.length [] operands := by
  obtain ⟨before, op, rest, role, hoperands, -, hrole, hop, -, -⟩ := h
  intro hfits
  rw [hoperands, fits_append, ← hoperands] at hfits
  exact hop (hfits.2.1 role (by simp [hrole]))

/-- With enough operands, a mnemonic selects an instruction exactly if the operands fit. -/
theorem exists_select_eq_pure_iff {operands : List Bytes} (h : m.arity ≤ operands.length) :
    (∃ i, m.select operands = pure i) ↔ m.Fits operands.length [] operands := by
  constructor
  · rintro ⟨i, hi⟩
    exact fits_of_form (select_eq_pure_iff.1 hi)
  · intro hfits
    obtain ⟨result, hresult⟩ := Option.isSome_iff_exists.1 (m.answers_select h)
    cases result with
    | ok i => exact ⟨i, hresult⟩
    | error e => exact absurd hfits (not_fits_of_blames (blames_select h e hresult))

end Mnemonic

/-! ### The kinds of failure of a line -/

/-- The kinds of failure of a statement. -/
def Kind.ofStatement : List Kind :=
  [unknownInstruction, notEnoughValues, notMemoryLocation, wrongRegister, wrongValue]

theorem Role.fault_mem (role : Role) : role.fault ∈ Kind.ofStatement := by cases role <;> decide

namespace Statement

variable {line : Bytes} {s : Statement}

theorem run_read_of_ofLine? (h : ofLine? line = some s) : s.read.run = some (reading line) := by
  rw [some_reading, reading?, h]
  rfl

theorem run_read_of_encode_eq_error {e : AsmError} (h : ofLine? line = some s) (he : encode line = .error e) :
    s.read.run = some (.error e) := by
  rw [run_read_of_ofLine? h]
  cases hreading : reading line with
  | error e' =>
    rw [encode, hreading] at he
    rw [Except.error.inj he]
  | ok i =>
    rw [encode, hreading] at he
    cases he

theorem fails_read (s : Statement) : s.read.Fails fun e => e.kind ∈ Kind.ofStatement := by
  unfold read
  cases Mnemonic.ofName? s.mnemonic with
  | none => exact fails_throw (by decide : Kind.unknownInstruction ∈ _)
  | some m =>
    show Fails (if s.operands.length < m.arity then _ else _) _
    split
    · exact fails_throw (by decide : Kind.notEnoughValues ∈ _)
    · next henough =>
      intro e he
      obtain ⟨_, _, _, role, -, -, -, -, hkind, -⟩ := Mnemonic.blames_select (Nat.not_lt.1 henough) e he
      rw [hkind]
      exact role.fault_mem

end Statement

theorem kind_mem_of_encode_eq_error {line : Bytes} {e : AsmError} (h : encode line = .error e) :
    e.kind ∈ Kind.ofStatement := by
  obtain ⟨s, hs⟩ := Option.isSome_iff_exists.1 (Statement.isSome_ofLine? line)
  exact s.fails_read e (Statement.run_read_of_encode_eq_error hs h)

end Chip8
