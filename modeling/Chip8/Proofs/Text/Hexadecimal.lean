import Chip8.Text.Numeral

/-!
# Written hexadecimal numbers

A digit is written as one of sixteen characters, of which the last six have an upper-case twin, and a
number is a non-empty row of digits read from the left, of any length. The rules are stated here as
relations between a text and a value; the statements say that the readers of `Numeral` follow them.
-/

namespace Chip8.Numeral

def LowerDigit (b : UInt8) (v : Nat) : Prop := (text "0123456789abcdef")[v]? = some b

def UpperDigit (b : UInt8) (v : Nat) : Prop := (text "0123456789ABCDEF")[v]? = some b

/-- The character is a digit of the value, in either case. -/
def HexDigit (b : UInt8) (v : Nat) : Prop := LowerDigit b v ∨ UpperDigit b v

instance (b : UInt8) (v : Nat) : Decidable (LowerDigit b v) := inferInstanceAs (Decidable (_ = _))

instance (b : UInt8) (v : Nat) : Decidable (UpperDigit b v) := inferInstanceAs (Decidable (_ = _))

instance (b : UInt8) (v : Nat) : Decidable (HexDigit b v) := inferInstanceAs (Decidable (_ ∨ _))

/-- The text is a row of digits in either case, with the value it has in base sixteen. -/
inductive HexNumber : Bytes → Nat → Prop
  | digit {b : UInt8} {v : Nat} (hdigit : HexDigit b v) : HexNumber [b] v
  | snoc {t : Bytes} {b : UInt8} {n v : Nat} (hnumber : HexNumber t n) (hdigit : HexDigit b v) :
    HexNumber (t ++ [b]) (n * 16 + v)

/-- A fact about every byte is one about the numbers below 256. -/
theorem forall_byte {P : UInt8 → Prop} (h : ∀ n < 256, P (UInt8.ofNat n)) (b : UInt8) : P b := by
  have hb := h b.toNat b.toNat_lt
  rwa [UInt8.ofNat_toNat] at hb

theorem LowerDigit.lt {b : UInt8} {v : Nat} (hdigit : LowerDigit b v) : v < 16 :=
  (List.getElem?_eq_some_iff.1 hdigit).1

theorem HexDigit.lt {b : UInt8} {v : Nat} (hdigit : HexDigit b v) : v < 16 := by
  rcases hdigit with hlower | hupper
  · exact hlower.lt
  · exact (List.getElem?_eq_some_iff.1 hupper).1

theorem hexDigit?_eq_some_iff {b : UInt8} {v : Nat} : hexDigit? b = some v ↔ HexDigit b v := by
  -- Both directions are finite: one runs over the bytes, the other over the sixteen values.
  have hread : ∀ b : UInt8, (hexDigit? b).all fun v => HexDigit b v := forall_byte (by decide +kernel)
  have hlower : ∀ v < 16, (text "0123456789abcdef")[v]?.all fun b => hexDigit? b = some v := by decide +kernel
  have hupper : ∀ v < 16, (text "0123456789ABCDEF")[v]?.all fun b => hexDigit? b = some v := by decide +kernel
  constructor
  · intro h
    simpa [h] using hread b
  · intro hdigit
    have hv := hdigit.lt
    rcases hdigit with hb | hb
    · simpa [show _ = some b from hb] using hlower v hv
    · simpa [show _ = some b from hb] using hupper v hv

theorem hexNumber_append {t rest : Bytes} {value n : Nat} (hnumber : HexNumber t value)
    (h : rest.foldlM (fun value b => do
      let d ← hexDigit? b
      if d < 16 then some (value * 16 + d) else none) value = some n) : HexNumber (t ++ rest) n := by
  induction rest generalizing t value with
  | nil =>
    obtain rfl : value = n := by simpa using h
    simpa using hnumber
  | cons b rest ih =>
    simp only [List.foldlM_cons, Option.bind_eq_bind, Option.bind_eq_some_iff] at h
    obtain ⟨next, ⟨d, hd, hnext⟩, hrest⟩ := h
    have hdigit := hexDigit?_eq_some_iff.1 hd
    rw [if_pos hdigit.lt] at hnext
    obtain rfl := Option.some.inj hnext
    simpa using ih (hnumber.snoc hdigit) hrest

theorem HexNumber.exists_cons {t : Bytes} {n : Nat} (hnumber : HexNumber t n) :
    ∃ b rest v, t = b :: rest ∧ HexDigit b v := by
  induction hnumber with
  | digit hdigit => exact ⟨_, [], _, rfl, hdigit⟩
  | snoc _ _ ih =>
    obtain ⟨b, rest, v, rfl, hb⟩ := ih
    exact ⟨b, rest ++ _, v, rfl, hb⟩

theorem digitsValue?_eq_some_iff {t : Bytes} {n : Nat} : digitsValue? 16 t = some n ↔ HexNumber t n := by
  constructor
  · intro h
    cases t with
    | nil => simp [digitsValue?] at h
    | cons b rest =>
      simp only [digitsValue?, List.isEmpty_cons, Bool.false_eq_true, if_false, List.foldlM_cons,
        Option.bind_eq_bind, Option.bind_eq_some_iff] at h
      obtain ⟨first, ⟨d, hd, hfirst⟩, hrest⟩ := h
      have hdigit := hexDigit?_eq_some_iff.1 hd
      rw [if_pos hdigit.lt, Nat.zero_mul, Nat.zero_add] at hfirst
      obtain rfl := Option.some.inj hfirst
      exact hexNumber_append (.digit hdigit) hrest
  · intro hnumber
    obtain ⟨b, rest, v, ht, -⟩ := hnumber.exists_cons
    rw [digitsValue?, if_neg (by simp [ht])]
    clear ht
    induction hnumber with
    | digit hdigit => simp [hexDigit?_eq_some_iff.2 hdigit, hdigit.lt]
    | snoc _ hdigit ih =>
      rw [List.foldlM_append, ih]
      simp [hexDigit?_eq_some_iff.2 hdigit, hdigit.lt]

theorem hexNumber_singleton {b : UInt8} {n : Nat} : HexNumber [b] n ↔ HexDigit b n := by
  rw [← digitsValue?_eq_some_iff, ← hexDigit?_eq_some_iff]
  cases hd : hexDigit? b with
  | none => simp [digitsValue?, hd]
  | some d => simp [digitsValue?, hd, (hexDigit?_eq_some_iff.1 hd).lt]

end Chip8.Numeral
