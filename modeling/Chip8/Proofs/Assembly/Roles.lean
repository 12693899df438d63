import Chip8.Proofs.Assembly.Statements

/-!
# The roles of operands

A statement is filled from left to right: what an operand has to be hangs on the mnemonic, on the number of
operands and on those before it, and not on those behind. `Mnemonic.role?` says which role comes next, and
`Role.Admits` which texts can play it. Operands fit if each of them can play its role.

The operands of every form fit (`fits_of_form`), and every role can be played by some text, so operands that
fit so far can always be filled up to ones that fit (`exists_fitting`).
-/

namespace Chip8

open Grammar Operand

/-- What an operand is to its statement. -/
inductive Role where
  | register | comparand | addend | mask | rows | address | base | destination | source | sum
  deriving DecidableEq, Repr

namespace Role

/-- The words that a load to a special destination may begin with, besides the index register. -/
def specialTargets : List Bytes := [text "DT", text "ST", text "F", text "B", text "[I]"]

def specialSources : List Bytes := [text "DT", text "K", text "[I]"]

/-- The texts that can play a role. -/
def Admits : Role → Bytes → Prop
  | register, t => ∃ x, RegisterText t x
  | comparand, t => (∃ x, RegisterText t x) ∨ ∃ k, LowerByteText t k
  | addend, t => (∃ x, RegisterText t x) ∨ ∃ k, ByteText t k
  | mask, t => ∃ k, ByteText t k
  | rows, t => ∃ n, NibbleText t n
  | address, t => ∃ a, AddressText t a
  | base, t => t = text "V0"
  | destination, t => (∃ x, RegisterText t x) ∨ t = text "I" ∨ t ∈ specialTargets
  | source, t => t ∈ specialSources ∨ (∃ x, RegisterText t x) ∨ ∃ k, LowerByteText t k
  | sum, t => t = text "I" ∨ ∃ x, RegisterText t x

/-- The kind of failure that a text is which cannot play the role. -/
def fault : Role → Kind
  | address => .notMemoryLocation
  | base => .wrongRegister
  | register | comparand | addend | mask | rows | destination | source | sum => .wrongValue

def sample : Role → Bytes
  | register | comparand | addend | base | destination | source | sum => text "V0"
  | mask | rows => text "0"
  | address => text "000"

theorem admits_sample (role : Role) : role.Admits role.sample := by
  have hregister : ∃ x, RegisterText (text "V0") x := ⟨0, registerText_registerWord 0⟩
  cases role with
  | register => exact hregister
  | comparand => exact .inl hregister
  | addend => exact .inl hregister
  | mask => exact ⟨0, Numeral.hexNumber_singleton.2 (hexDigit_lowerDigit 0)⟩
  | rows => exact ⟨0, nibbleText_nibbleWord 0⟩
  | address => exact ⟨⟨0, 0⟩, addressText_addressWord ⟨0, 0⟩⟩
  | base => rfl
  | destination => exact .inl hregister
  | source => exact .inr (.inl hregister)
  | sum => exact .inr hregister

theorem lettered_sample (role : Role) : Lettered role.sample := by cases role <;> decide

theorem not_special_of_isRegister {t : Bytes} (h : isRegister t = true) : t ≠ text "I" ∧ t ∉ specialTargets := by
  have hnone : ∀ word ∈ text "I" :: specialTargets, isRegister word = false := by decide
  have hword : ∀ word ∈ text "I" :: specialTargets, t ≠ word := by
    rintro word hmem rfl
    rw [hnone t hmem] at h
    cases h
  exact ⟨hword _ List.mem_cons_self, fun hmem => hword t (List.mem_cons_of_mem _ hmem) rfl⟩

end Role

namespace Mnemonic

/-- The role of the operand behind `before` in a statement of `count` operands, if the form uses one there. -/
def role? (m : Mnemonic) (count : Nat) (before : List Bytes) : Option Role :=
  match m, before with
  | nop, _ | cls, _ | ret, _ => none
  | jp, [] => some (if count = 1 then .address else .base)
  | jp, [_] => if count = 1 then none else some .address
  | call, [] => some .address
  | ld, [] => some .destination
  | ld, [first] =>
    some (if first = text "I" then .address else if first ∈ Role.specialTargets then .register else .source)
  | add, [] => some .sum
  | add, [first] => some (if first = text "I" then .register else .addend)
  | se, [_] => some .comparand
  | rnd, [_] => some .mask
  | drw, [_, _] => some .rows
  | _, _ => if before.length < m.arity then some .register else none

/-- How many operands a statement of `count` operands uses: as many as its mnemonic asks for, but two if a
jump has more than one. -/
def used (m : Mnemonic) (count : Nat) : Nat := if m = .jp ∧ count ≠ 1 then 2 else m.arity

/-- Each of the operands behind `before` can play its role, as far as it has one. -/
def Fits (m : Mnemonic) (count : Nat) (before : List Bytes) : List Bytes → Prop
  | [] => True
  | op :: rest => (∀ role ∈ m.role? count before, role.Admits op) ∧ m.Fits count (before ++ [op]) rest

variable {m : Mnemonic} {count : Nat} {before : List Bytes}

theorem role?_eq_none (h : m.used count ≤ before.length) : m.role? count before = none := by
  unfold role?
  split <;> simp_all [used, arity] <;> grind

theorem length_lt_used {role : Role} (h : m.role? count before = some role) : before.length < m.used count := by
  by_contra hge
  rw [role?_eq_none (Nat.not_lt.1 hge)] at h
  cases h

theorem fits_append {ops more : List Bytes} :
    m.Fits count before (ops ++ more) ↔ m.Fits count before ops ∧ m.Fits count (before ++ ops) more := by
  induction ops generalizing before with
  | nil => simp [Fits]
  | cons op ops ih => simp [Fits, ih, and_assoc]

theorem fits_of_used_le {ops : List Bytes} (h : m.used count ≤ before.length) : m.Fits count before ops := by
  induction ops generalizing before with
  | nil => trivial
  | cons op ops ih =>
    refine ⟨by simp [role?_eq_none h], ih ?_⟩
    rw [List.length_append]
    omega

theorem fits_first {op : Bytes} {rest : List Bytes} (role : Role) (hrole : m.role? count [] = some role)
    (hop : role.Admits op) (hused : m.used count ≤ 1) : m.Fits count [] (op :: rest) :=
  ⟨by simpa [hrole] using hop, fits_of_used_le hused⟩

theorem fits_second {s t : Bytes} {rest : List Bytes} (first second : Role) (hfirst : m.role? count [] = some first)
    (hs : first.Admits s) (hsecond : m.role? count [s] = some second) (ht : second.Admits t)
    (hused : m.used count ≤ 2) : m.Fits count [] (s :: t :: rest) :=
  ⟨by simpa [hfirst] using hs, by simpa [hsecond] using ht, fits_of_used_le hused⟩

theorem role?_ld_of_registerText {s : Bytes} {x : Register} (hs : RegisterText s x) :
    ld.role? count [s] = some .source := by
  obtain ⟨hindex, hspecial⟩ := Role.not_special_of_isRegister (isRegister_of_registerText hs)
  simp [role?, hindex, hspecial]

theorem role?_add_of_registerText {s : Bytes} {x : Register} (hs : RegisterText s x) :
    add.role? count [s] = some .addend := by
  obtain ⟨hindex, -⟩ := Role.not_special_of_isRegister (isRegister_of_registerText hs)
  simp [role?, hindex]

/-- In every form of the grammar each operand can play its role. -/
theorem fits_of_form {operands : List Bytes} {i : Instruction} (h : Form m operands i) :
    m.Fits operands.length [] operands := by
  cases h with
  | nop | cls | ret => exact fits_of_used_le (Nat.zero_le _)
  | jump ht => exact fits_first .address rfl ⟨_, ht⟩ (Nat.le_refl 1)
  | jumpOffset ht =>
    exact fits_second .base .address (by simp [role?]) rfl (by simp [role?]) ⟨_, ht⟩ (by simp [used])
  | call ht => exact fits_first .address rfl ⟨_, ht⟩ (Nat.le_refl 1)
  | skipIfPressed hs | skipIfReleased hs => exact fits_first .register rfl ⟨_, hs⟩ (Nat.le_refl 1)
  | skipIfSame hs ht => exact fits_second .register .comparand rfl ⟨_, hs⟩ rfl (.inl ⟨_, ht⟩) (Nat.le_refl 2)
  | skipIfByte hs ht => exact fits_second .register .comparand rfl ⟨_, hs⟩ rfl (.inr ⟨_, ht⟩) (Nat.le_refl 2)
  | loadRegister hs ht =>
    exact fits_second .destination .source rfl (.inl ⟨_, hs⟩) (role?_ld_of_registerText hs) (.inr (.inl ⟨_, ht⟩))
      (Nat.le_refl 2)
  | loadByte hs ht =>
    exact fits_second .destination .source rfl (.inl ⟨_, hs⟩) (role?_ld_of_registerText hs) (.inr (.inr ⟨_, ht⟩))
      (Nat.le_refl 2)
  | loadDelay hs | loadKey hs | loadMemory hs =>
    exact fits_second .destination .source rfl (.inl ⟨_, hs⟩) (role?_ld_of_registerText hs) (.inl (by decide))
      (Nat.le_refl 2)
  | loadIndex ht => exact fits_second .destination .address rfl (.inr (.inl rfl)) rfl ⟨_, ht⟩ (Nat.le_refl 2)
  | storeDelay ht | storeSound ht | pointAtDigit ht | storeDecimal ht | storeMemory ht =>
    exact fits_second .destination .register rfl (.inr (.inr (by decide))) rfl ⟨_, ht⟩ (Nat.le_refl 2)
  | addToIndex ht => exact fits_second .sum .register rfl (.inl rfl) rfl ⟨_, ht⟩ (Nat.le_refl 2)
  | addRegister hs ht =>
    exact fits_second .sum .addend rfl (.inr ⟨_, hs⟩) (role?_add_of_registerText hs) (.inl ⟨_, ht⟩) (Nat.le_refl 2)
  | addByte hs ht =>
    exact fits_second .sum .addend rfl (.inr ⟨_, hs⟩) (role?_add_of_registerText hs) (.inr ⟨_, ht⟩) (Nat.le_refl 2)
  | or hs ht | and hs ht | xor hs ht | sub hs ht | shr hs ht | subn hs ht | shl hs ht | skipIfOther hs ht =>
    exact fits_second .register .register rfl ⟨_, hs⟩ rfl ⟨_, ht⟩ (Nat.le_refl 2)
  | random hs ht => exact fits_second .register .mask rfl ⟨_, hs⟩ rfl ⟨_, ht⟩ (Nat.le_refl 2)
  | draw hs ht hu =>
    refine ⟨?_, ?_, ?_, fits_of_used_le (Nat.le_refl 3)⟩
    · simpa [role?, arity, Role.Admits] using ⟨_, hs⟩
    · simpa [role?, arity, Role.Admits] using ⟨_, ht⟩
    · simpa [role?, arity, Role.Admits] using ⟨_, hu⟩

/-- Whatever stands before, any number of operands can be put behind it that can play their roles. -/
theorem exists_fitting (m : Mnemonic) (count : Nat) (before : List Bytes) (n : Nat) :
    ∃ more : List Bytes, more.length = n ∧ (∀ op ∈ more, Lettered op) ∧ m.Fits count before more := by
  induction n generalizing before with
  | zero => exact ⟨[], rfl, by simp, trivial⟩
  | succ n ih =>
    obtain ⟨op, hlettered, hop⟩ : ∃ op, Lettered op ∧ ∀ role ∈ m.role? count before, role.Admits op := by
      cases hrole : m.role? count before with
      | none => exact ⟨[], by simp [Lettered], by simp⟩
      | some role => exact ⟨role.sample, role.lettered_sample, by simpa using role.admits_sample⟩
    obtain ⟨more, hlength, hmore, hfits⟩ := ih (before ++ [op])
    refine ⟨op :: more, by simp [hlength], ?_, hop, hfits⟩
    intro w hw
    rcases List.mem_cons.1 hw with rfl | hw
    · exact hlettered
    · exact hmore w hw

end Mnemonic

end Chip8
