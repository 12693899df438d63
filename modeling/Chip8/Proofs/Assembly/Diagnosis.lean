import Chip8.Proofs.Assembly.Blame

/-!
# What the error of a line says

The kind of the error of a line is settled by the words of the line: by the mnemonic, by the number of operands,
by a first operand of a jump that is not V0, and by an operand in the place of an address that is none; all else
is a wrong value. Its token is the mnemonic, or else the first operand at which the line is lost: the words
before it can be completed to a line that encodes, and with it no choice of the words behind helps
(`encode_error_diagnosed`).

The second half speaks of all lines that begin alike. It comes down to roles: words can be completed exactly if
their operands can play their roles (`completes_iff`).
-/

namespace Chip8

open Grammar Operand Reading

def operandsOf (words : List Bytes) : List Bytes := words.map (Bytes.dropFinal 0x2C)

@[simp] theorem length_operandsOf (words : List Bytes) : (operandsOf words).length = words.length := List.length_map _

theorem operandsOf_append (words more : List Bytes) : operandsOf (words ++ more) = operandsOf words ++ operandsOf more :=
  List.map_append

theorem operandsOf_of_lettered {words : List Bytes} (h : ∀ w ∈ words, Lettered w) : operandsOf words = words := by
  have hkept : ∀ w ∈ words, Bytes.dropFinal 0x2C w = id w := by
    intro w hw
    exact Bytes.dropFinal_of_not_mem ((h w hw).not_mem (by decide))
  rw [operandsOf, List.map_congr_left hkept, List.map_id]

def UnknownWord (word : Bytes) : Prop := word ∉ Mnemonic.all.map Mnemonic.name

theorem not_unknownWord_iff {word : Bytes} : ¬UnknownWord word ↔ ∃ m : Mnemonic, m.name = word := by
  simp [UnknownWord, Mnemonic.mem_all]

namespace Mnemonic

theorem name_inj {m m' : Mnemonic} : m.name = m'.name ↔ m = m' := by
  constructor
  · intro h
    apply Option.some.inj
    rw [← ofName?_name, h, ofName?_name]
  · rintro rfl
    rfl

theorem ofName?_eq_none {word : Bytes} (h : UnknownWord word) : ofName? word = none := by
  cases hm : ofName? word with
  | none => rfl
  | some m => exact absurd h (not_unknownWord_iff.2 ⟨m, name_of_ofName? hm⟩)

end Mnemonic

namespace Statement

variable {line : Bytes} {s : Statement} {m : Mnemonic} {operands : List Bytes}

theorem ofLine?_join {word : Bytes} {words : List Bytes} (h : ∀ w ∈ word :: words, 0x20 ∉ w) :
    ofLine? (Bytes.join (text " ") (word :: words)) = some ⟨word, operandsOf words⟩ :=
  ofLine?_eq_some_iff.2 ⟨words, rfl, h, forall₂_trimmed_iff.2 rfl⟩

theorem exists_encode_eq_ok_iff (h : ofLine? line = some s) : (∃ op, encode line = .ok op) ↔ ∃ i, s.read = pure i := by
  have hrun : ∀ i, s.read = pure i ↔ reading line = .ok i := by
    intro i
    rw [← Option.some_inj (b := Except.ok i), ← run_read_of_ofLine? h]
    rfl
  simp only [hrun, encode]
  cases reading line with
  | error e => simp [Except.map]
  | ok i => simp [Except.map]

theorem read_of_unknownWord {word : Bytes} (h : UnknownWord word) :
    read ⟨word, operands⟩ = throw ⟨.unknownInstruction, word, Quoted.string word⟩ := by
  unfold read
  rw [Mnemonic.ofName?_eq_none h]

theorem read_of_lt_arity (h : operands.length < m.arity) : read ⟨m.name, operands⟩ =
    throw ⟨.notEnoughValues, m.name, m.name ++ text ": " ++ text m.needs⟩ := by
  unfold read
  rw [Mnemonic.ofName?_name]
  exact if_pos h

theorem read_of_arity_le (h : m.arity ≤ operands.length) : read ⟨m.name, operands⟩ = m.select operands := by
  unfold read
  rw [Mnemonic.ofName?_name]
  exact if_neg (Nat.not_lt.2 h)

end Statement

/-! ### Lines that begin alike -/

/-- So many words can be put behind the given ones that the line encodes. -/
def Completes (word : Bytes) (given : List Bytes) (more : Nat) : Prop :=
  ∃ others : List Bytes, others.length = more ∧ (∀ w ∈ others, 0x20 ∉ w) ∧
    ∃ op, encode (Bytes.join (text " ") (word :: (given ++ others))) = .ok op

/-- The word with this number is the first with which the words cannot be completed. -/
structure FirstLost (word : Bytes) (words : List Bytes) (i : Nat) : Prop where
  lt : i < words.length
  lost : ¬Completes word (words.take (i + 1)) (words.length - (i + 1))
  not_before : ∀ j < i, Completes word (words.take (j + 1)) (words.length - (j + 1))

theorem completes_iff {m : Mnemonic} {given : List Bytes} {more : Nat} (hgiven : ∀ w ∈ given, 0x20 ∉ w)
    (harity : m.arity ≤ given.length + more) :
    Completes m.name given more ↔ m.Fits (given.length + more) [] (operandsOf given) := by
  have hencodes : ∀ others : List Bytes, others.length = more → (∀ w ∈ others, 0x20 ∉ w) →
      ((∃ op, encode (Bytes.join (text " ") (m.name :: (given ++ others))) = .ok op) ↔
        m.Fits (given.length + more) [] (operandsOf (given ++ others))) := by
    intro others hlength hothers
    have hfree : ∀ w ∈ m.name :: (given ++ others), 0x20 ∉ w := by
      intro w hw
      rcases List.mem_cons.1 hw with rfl | hw
      · exact m.lettered_name.not_mem (by decide)
      · exact (List.mem_append.1 hw).elim (hgiven w) (hothers w)
    have hcount : (operandsOf (given ++ others)).length = given.length + more := by simp [hlength]
    rw [Statement.exists_encode_eq_ok_iff (Statement.ofLine?_join hfree), Statement.read_of_arity_le (by omega),
      Mnemonic.exists_select_eq_pure_iff (by omega), hcount]
  constructor
  · rintro ⟨others, hlength, hothers, hop⟩
    have hfits := (hencodes others hlength hothers).1 hop
    rw [operandsOf_append, Mnemonic.fits_append] at hfits
    exact hfits.1
  · intro hfits
    obtain ⟨others, hlength, hlettered, hmore⟩ :=
      m.exists_fitting (given.length + more) (operandsOf given) more
    have hothers : ∀ w ∈ others, 0x20 ∉ w := fun w hw => (hlettered w hw).not_mem (by decide)
    refine ⟨others, hlength, hothers, (hencodes others hlength hothers).2 ?_⟩
    rw [operandsOf_append, operandsOf_of_lettered hlettered, Mnemonic.fits_append]
    exact ⟨hfits, hmore⟩

theorem firstLost_of_blames {m : Mnemonic} {words : List Bytes} {e : AsmError} (hwords : ∀ w ∈ words, 0x20 ∉ w)
    (harity : m.arity ≤ words.length) (h : m.Blames (operandsOf words) e) :
    ∃ i, FirstLost m.name words i ∧ i < m.used words.length ∧
      (operandsOf words)[i]? = some e.token := by
  obtain ⟨before, op, rest, role, hoperands, hbefore, hrole, hop, -, rfl⟩ := h
  rw [length_operandsOf] at hbefore hrole
  have hlength : words.length = before.length + (rest.length + 1) := by
    simpa using congrArg List.length hoperands
  have hcompletes : ∀ k ≤ words.length, (Completes m.name (words.take k) (words.length - k) ↔
      m.Fits words.length [] ((before ++ e.token :: rest).take k)) := by
    intro k hk
    have hcount : (words.take k).length + (words.length - k) = words.length := by
      rw [List.length_take]
      omega
    rw [completes_iff (fun w hw => hwords w (List.mem_of_mem_take hw)) (by omega), hcount, ← hoperands, operandsOf, operandsOf,
      List.map_take]
  refine ⟨before.length, ⟨by omega, ?_, ?_⟩, Mnemonic.length_lt_used hrole, ?_⟩
  · rw [hcompletes _ (by omega)]
    intro hfits
    rw [List.take_length_add_append, Mnemonic.fits_append] at hfits
    exact hop (hfits.2.1 role (by simp [hrole]))
  · intro j hj
    rw [hcompletes _ (by omega), List.take_append_of_le_length (by omega)]
    rw [← List.take_append_drop (j + 1) before, Mnemonic.fits_append] at hbefore
    exact hbefore.1
  · rw [hoperands]
    simp

/-! ### The kinds -/

/-- The operand of a statement that has to be an address. -/
inductive AddressOperand : Mnemonic → List Bytes → Bytes → Prop
  | jump {t : Bytes} : AddressOperand .jp [t] t
  | jumpOffset {t : Bytes} {rest : List Bytes} : AddressOperand .jp (text "V0" :: t :: rest) t
  | call {t : Bytes} {rest : List Bytes} : AddressOperand .call (t :: rest) t
  | loadIndex {t : Bytes} {rest : List Bytes} : AddressOperand .ld (text "I" :: t :: rest) t

theorem Role.fault_eq_wrongRegister_iff (role : Role) : role.fault = .wrongRegister ↔ role = .base := by
  cases role <;> decide

theorem Role.fault_eq_notMemoryLocation_iff (role : Role) : role.fault = .notMemoryLocation ↔ role = .address := by
  cases role <;> decide

namespace Mnemonic

variable {m : Mnemonic} {count : Nat} {operands before : List Bytes} {e e' : AsmError}

theorem eq_of_role?_eq_base (h : m.role? count before = some .base) : m = .jp ∧ before = [] ∧ count ≠ 1 := by
  unfold role? at h
  grind

theorem eq_of_role?_eq_address (h : m.role? count before = some .address) :
    (m = .jp ∧ before = [] ∧ count = 1) ∨ (m = .jp ∧ count ≠ 1 ∧ ∃ s, before = [s]) ∨
      (m = .call ∧ before = []) ∨ (m = .ld ∧ before = [text "I"]) := by
  unfold role? at h
  grind

theorem length_le_of_fits {op op' : Bytes} {rest rest' before' : List Bytes} {role : Role}
    (hsame : before ++ op :: rest = before' ++ op' :: rest') (hrole : m.role? count before = some role)
    (hop : ¬role.Admits op) (hfits : m.Fits count [] before') : before'.length ≤ before.length := by
  obtain ⟨between, rfl, hbetween⟩ | ⟨between, rfl, -⟩ := List.append_eq_append_iff.1 hsame
  · cases between with
    | nil => simp
    | cons first between =>
      obtain rfl : op = first := (List.cons.inj hbetween).1
      rw [fits_append] at hfits
      exact absurd (hfits.2.1 role (by simp [hrole])) hop
  · simp

/-- The operands alone settle the kind. -/
theorem Blames.kind_eq (h : m.Blames operands e) (h' : m.Blames operands e') : e.kind = e'.kind := by
  obtain ⟨before, op, rest, role, rfl, hbefore, hrole, hop, hkind, -⟩ := h
  obtain ⟨before', op', rest', role', hsame, hbefore', hrole', hop', hkind', -⟩ := h'
  have hlength : before.length = before'.length :=
    Nat.le_antisymm (length_le_of_fits hsame.symm hrole' hop' hbefore) (length_le_of_fits hsame hrole hop hbefore')
  obtain ⟨rfl, -⟩ := List.append_inj hsame hlength
  rw [hrole] at hrole'
  rw [hkind, hkind', Option.some.inj hrole']

theorem Blames.kind_eq_wrongRegister_iff (h : m.Blames operands e) :
    e.kind = .wrongRegister ↔ m = .jp ∧ 2 ≤ operands.length ∧ operands.head? ≠ some (text "V0") := by
  constructor
  · intro hwrong
    obtain ⟨before, op, rest, role, rfl, -, hrole, hop, hkind, -⟩ := h
    obtain rfl : role = .base := by rwa [hkind, Role.fault_eq_wrongRegister_iff] at hwrong
    obtain ⟨rfl, rfl, hcount⟩ := eq_of_role?_eq_base hrole
    refine ⟨rfl, ?_, ?_⟩
    · rw [List.nil_append, List.length_cons] at hcount ⊢
      omega
    · simpa [Role.Admits] using hop
  · rintro ⟨rfl, hcount, hhead⟩
    obtain ⟨s, rest, rfl⟩ := List.exists_cons_of_length_pos (by omega : 0 < operands.length)
    have hmore : rest.length + 1 ≠ 1 := by
      rw [List.length_cons] at hcount
      omega
    have hfirst : jp.role? (rest.length + 1) [] = some .base := by simp only [role?, if_neg hmore]
    have hs : ¬Role.base.Admits s := by simpa [Role.Admits] using hhead
    have hthrow : Plays (throw ⟨.wrongRegister, s, []⟩ : Reading Unit) .base s := plays_throw .base hs rfl rfl
    exact h.kind_eq (blames_first hthrow hfirst _ rfl)

theorem Blames.kind_eq_notMemoryLocation_iff (h : m.Blames operands e) :
    e.kind = .notMemoryLocation ↔ ∃ t, AddressOperand m operands t ∧ ¬∃ a, AddressText t a := by
  constructor
  · intro hnone
    obtain ⟨before, op, rest, role, rfl, hbefore, hrole, hop, hkind, -⟩ := h
    obtain rfl : role = .address := by rwa [hkind, Role.fault_eq_notMemoryLocation_iff] at hnone
    refine ⟨op, ?_, hop⟩
    obtain ⟨rfl, rfl, hcount⟩ | ⟨rfl, hcount, s, rfl⟩ | ⟨rfl, rfl⟩ | ⟨rfl, rfl⟩ := eq_of_role?_eq_address hrole
    · obtain rfl : rest = [] := by simpa using hcount
      exact .jump
    · obtain rfl : s = text "V0" := by simpa [Fits, role?, Role.Admits] using hbefore
      exact .jumpOffset
    · exact .call
    · exact .loadIndex
  · rintro ⟨t, haddress, ht⟩
    have hthrow : Plays (throw ⟨.notMemoryLocation, t, []⟩ : Reading Unit) .address t := plays_throw .address ht rfl rfl
    cases haddress with
    | jump => exact h.kind_eq (blames_first hthrow rfl _ rfl)
    | jumpOffset => exact h.kind_eq (blames_second .base (by simp [role?]) rfl hthrow (by simp [role?]) _ rfl)
    | call => exact h.kind_eq (blames_first hthrow rfl _ rfl)
    | loadIndex => exact h.kind_eq (blames_second .destination rfl (.inr (.inl rfl)) hthrow rfl _ rfl)

end Mnemonic

/-! ### The error of a line -/

def LacksOperands (word : Bytes) (words : List Bytes) : Prop :=
  ∃ m : Mnemonic, m.name = word ∧ words.length < m.arity

def OffsetByOther (word : Bytes) (words : List Bytes) : Prop :=
  word = text "jp" ∧ 2 ≤ words.length ∧ (operandsOf words).head? ≠ some (text "V0")

def LacksAddress (word : Bytes) (words : List Bytes) : Prop :=
  ∃ m t, Mnemonic.name m = word ∧ AddressOperand m (operandsOf words) t ∧ ¬∃ a, AddressText t a

/-- What the error of a line of these words says. -/
structure Diagnosis (word : Bytes) (words : List Bytes) (e : AsmError) : Prop where
  unknownInstruction_iff : e.kind = .unknownInstruction ↔ UnknownWord word
  notEnoughValues_iff : e.kind = .notEnoughValues ↔ LacksOperands word words
  wrongRegister_iff : e.kind = .wrongRegister ↔ OffsetByOther word words
  notMemoryLocation_iff : e.kind = .notMemoryLocation ↔ LacksAddress word words
  wrongValue_iff : e.kind = .wrongValue ↔
    ¬UnknownWord word ∧ ¬LacksOperands word words ∧ ¬OffsetByOther word words ∧ ¬LacksAddress word words
  kind_mem : e.kind ∈ Kind.ofStatement
  token_eq_word : UnknownWord word ∨ LacksOperands word words → e.token = word
  token_eq_operand : ¬UnknownWord word → ¬LacksOperands word words →
    ∃ (m : Mnemonic) (i : Nat), m.name = word ∧ FirstLost word words i ∧ i < m.used words.length ∧
      (operandsOf words)[i]? = some e.token

theorem AddressOperand.arity_le {m : Mnemonic} {operands : List Bytes} {t : Bytes} (h : AddressOperand m operands t) :
    m.arity ≤ operands.length := by
  cases h <;> simp [Mnemonic.arity]

section

variable {word : Bytes} {words : List Bytes} {m : Mnemonic} {e : AsmError}

theorem lacksOperands_iff : LacksOperands m.name words ↔ words.length < m.arity := by
  simp [LacksOperands, Mnemonic.name_inj]

theorem offsetByOther_iff : OffsetByOther m.name words ↔
    m = .jp ∧ 2 ≤ (operandsOf words).length ∧ (operandsOf words).head? ≠ some (text "V0") := by
  rw [OffsetByOther, show text "jp" = Mnemonic.jp.name from rfl, Mnemonic.name_inj, length_operandsOf]

theorem lacksAddress_iff : LacksAddress m.name words ↔
    ∃ t, AddressOperand m (operandsOf words) t ∧ ¬∃ a, AddressText t a := by
  simp [LacksAddress, Mnemonic.name_inj]

theorem diagnosis_of_unknownWord (hword : UnknownWord word) (hkind : e.kind = .unknownInstruction)
    (htoken : e.token = word) : Diagnosis word words e := by
  have hnone : ∀ m : Mnemonic, m.name ≠ word := by
    intro m hm
    exact not_unknownWord_iff.2 ⟨m, hm⟩ hword
  have hlacks : ¬LacksOperands word words := by
    rintro ⟨m, hm, -⟩
    exact hnone m hm
  have hoffset : ¬OffsetByOther word words := by
    rintro ⟨hjp, -⟩
    exact hnone .jp hjp.symm
  have haddress : ¬LacksAddress word words := by
    rintro ⟨m, t, hm, -⟩
    exact hnone m hm
  refine ⟨?_, ?_, ?_, ?_, ?_, ?_, fun _ => htoken, fun hknown => absurd hword hknown⟩ <;> rw [hkind]
  · exact iff_of_true rfl hword
  · exact iff_of_false (by decide) hlacks
  · exact iff_of_false (by decide) hoffset
  · exact iff_of_false (by decide) haddress
  · exact iff_of_false (by decide) fun h => h.1 hword
  · decide

theorem diagnosis_of_lacksOperands (hlacks : words.length < m.arity) (hkind : e.kind = .notEnoughValues)
    (htoken : e.token = m.name) : Diagnosis m.name words e := by
  have hlacks' := lacksOperands_iff.2 hlacks
  have hknown : ¬UnknownWord m.name := not_unknownWord_iff.2 ⟨m, rfl⟩
  have hoffset : ¬OffsetByOther m.name words := by
    rw [offsetByOther_iff]
    rintro ⟨rfl, htwo, -⟩
    rw [length_operandsOf] at htwo
    have hone : words.length < 1 := hlacks
    omega
  have haddress : ¬LacksAddress m.name words := by
    rw [lacksAddress_iff]
    rintro ⟨t, ht, -⟩
    have harity := ht.arity_le
    rw [length_operandsOf] at harity
    omega
  refine ⟨?_, ?_, ?_, ?_, ?_, ?_, fun _ => htoken, fun _ henough => absurd hlacks' henough⟩ <;> rw [hkind]
  · exact iff_of_false (by decide) hknown
  · exact iff_of_true rfl hlacks'
  · exact iff_of_false (by decide) hoffset
  · exact iff_of_false (by decide) haddress
  · exact iff_of_false (by decide) fun h => h.2.1 hlacks'
  · decide

theorem diagnosis_of_blames (hwords : ∀ w ∈ words, 0x20 ∉ w) (henough : m.arity ≤ words.length)
    (h : m.Blames (operandsOf words) e) : Diagnosis m.name words e := by
  have hknown : ¬UnknownWord m.name := not_unknownWord_iff.2 ⟨m, rfl⟩
  have hlacks : ¬LacksOperands m.name words := fun hlacks => Nat.not_lt.2 henough (lacksOperands_iff.1 hlacks)
  have hoffset := h.kind_eq_wrongRegister_iff.trans offsetByOther_iff.symm
  have haddress := h.kind_eq_notMemoryLocation_iff.trans lacksAddress_iff.symm
  have hmem : e.kind ∈ [Kind.notMemoryLocation, .wrongRegister, .wrongValue] := by
    obtain ⟨_, _, _, role, -, -, -, -, hkind, -⟩ := h
    rw [hkind]
    cases role <;> decide
  have hunknown : e.kind ≠ .unknownInstruction := by
    intro hkind
    rw [hkind] at hmem
    exact absurd hmem (by decide)
  have hfew : e.kind ≠ .notEnoughValues := by
    intro hkind
    rw [hkind] at hmem
    exact absurd hmem (by decide)
  refine ⟨iff_of_false hunknown hknown, iff_of_false hfew hlacks, hoffset, haddress, ?_, ?_, ?_, ?_⟩
  · rw [← hoffset, ← haddress]
    simp only [List.mem_cons, List.not_mem_nil, or_false] at hmem
    constructor
    · intro hkind
      rw [hkind]
      exact ⟨hknown, hlacks, by decide, by decide⟩
    · rintro ⟨-, -, hnot, hnot'⟩
      exact (hmem.resolve_left hnot').resolve_left hnot
  · exact List.mem_of_mem_drop (i := 2) hmem
  · rintro (hword | hword)
    · exact absurd hword hknown
    · exact absurd hword hlacks
  · intro _ _
    obtain ⟨i, hfirst, hused, htoken⟩ := firstLost_of_blames hwords henough h
    exact ⟨m, i, rfl, hfirst, hused, htoken⟩

end

/-- The error of a line is classified by the words of the line, and it blames the mnemonic or the first operand
at which the line is lost. -/
theorem encode_error_diagnosed {line : Bytes} {e : AsmError} (h : encode line = .error e) :
    ∃ word words, Bytes.splitOn 0x20 line = word :: words ∧ Diagnosis word words e := by
  obtain ⟨word, words, hsplit⟩ := List.exists_cons_of_ne_nil (Bytes.splitOn_ne_nil 0x20 line)
  have hfree := Bytes.not_mem_of_mem_splitOn 0x20 line
  rw [hsplit] at hfree
  have hline : Statement.ofLine? line = some ⟨word, operandsOf words⟩ := by
    rw [Statement.ofLine?, hsplit]
    rfl
  have hrun := Statement.run_read_of_encode_eq_error hline h
  refine ⟨word, words, hsplit, ?_⟩
  by_cases hword : UnknownWord word
  · rw [Statement.read_of_unknownWord hword] at hrun
    obtain rfl := Except.error.inj (Option.some.inj hrun)
    exact diagnosis_of_unknownWord hword rfl rfl
  · obtain ⟨m, rfl⟩ := not_unknownWord_iff.1 hword
    by_cases henough : m.arity ≤ words.length
    · rw [Statement.read_of_arity_le (by rwa [length_operandsOf])] at hrun
      apply diagnosis_of_blames (fun w hw => hfree w (List.mem_cons_of_mem _ hw)) henough
      exact Mnemonic.blames_select (by rwa [length_operandsOf]) e hrun
    · have hlacks : words.length < m.arity := Nat.not_le.1 henough
      rw [Statement.read_of_lt_arity (by rwa [length_operandsOf])] at hrun
      obtain rfl := Except.error.inj (Option.some.inj hrun)
      exact diagnosis_of_lacksOperands hlacks rfl rfl

/-- An address with an upper-case lead, behind an index register with a comma and before a word too many. -/
theorem encode_error_diagnosed_upper_case_lead :
    let e : AsmError := ⟨.notMemoryLocation, text "A20", text "ld: \"A20\" is not a memory location"⟩
    encode (text "ld I, A20 V1,") = .error e ∧
      Diagnosis (text "ld") [text "I,", text "A20", text "V1,"] e := by
  intro e
  have h : encode (text "ld I, A20 V1,") = .error e := by rfl
  have hwords : Bytes.splitOn 0x20 (text "ld I, A20 V1,") = [text "ld", text "I,", text "A20", text "V1,"] := by
    decide
  obtain ⟨word, words, hsplit, hdiagnosis⟩ := encode_error_diagnosed h
  obtain ⟨rfl, rfl⟩ := List.cons.inj (hwords.symm.trans hsplit)
  exact ⟨h, hdiagnosis⟩

end Chip8
