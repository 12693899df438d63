import Chip8.Proofs.Text.Hexadecimal
import Mathlib.Data.List.Forall2
import Mathlib.Data.Nat.Digits.Lemmas

/-!
# Printed numbers

A printed number is its digits from the highest on, with zeros in front if it would otherwise be shorter
than it has to be. `Printed` says that of a text, and the printers of `Numeral` are reached from here on
only through it: what they print is of this kind (`printed_hexUpper`, `printed_decimal`), and such a text
is read as its number again (`Printed.digitsValue?_eq`).

A number that has room in the width is not longer than that (`Printed.length_eq`). So a word of sixteen
bits is printed as its two bytes one behind the other.
-/

namespace Chip8.Numeral

/-- The text is `n` in `base`, with capitals for the digits from ten on, filled up with zeros to `width`
digits and no further. -/
structure Printed (base width n : Nat) (t : Bytes) : Prop where
  value : ∃ ds, List.Forall₂ UpperDigit t ds ∧ (∀ d ∈ ds, d < base) ∧ Nat.ofDigits base ds.reverse = n
  width_le : width ≤ t.length
  lead : width < t.length → t.head? ≠ some 0x30

/-! ### The digits of a number -/

variable {base width n : Nat} {t : Bytes}

theorem digitsWithin_eq (hbase : 1 < base) {fuel : Nat} (hfuel : n ≤ fuel) :
    digitsWithin base fuel n = if n = 0 then [0] else (Nat.digits base n).reverse := by
  induction fuel generalizing n with
  | zero =>
    have hzero : n = 0 := by omega
    rw [digitsWithin, if_pos hzero, hzero, Nat.zero_mod]
  | succ fuel ih =>
    rw [digitsWithin]
    by_cases hlt : n < base
    · rw [if_pos hlt]
      by_cases hzero : n = 0
      · rw [if_pos hzero, hzero]
      · rw [if_neg hzero, Nat.digits_of_lt base n hzero hlt, List.reverse_singleton]
    · have hsmaller : n / base < n := Nat.div_lt_self (by omega) hbase
      have hquotient : n / base ≠ 0 := Nat.ne_of_gt (Nat.div_pos (by omega) (by omega))
      have hdigits : Nat.digits base n = n % base :: Nat.digits base (n / base) :=
        Nat.digits_eq_cons_digits_div hbase (by omega)
      rw [if_neg hlt, ih (by omega), if_neg hquotient, if_neg (by omega), hdigits, List.reverse_cons]

theorem digits_eq (hbase : 1 < base) (n : Nat) :
    digits base n = if n = 0 then [0] else (Nat.digits base n).reverse :=
  digitsWithin_eq hbase (Nat.le_refl n)

theorem digits_ne_nil (hbase : 1 < base) (n : Nat) : digits base n ≠ [] := by
  rw [digits_eq hbase]
  split
  · simp
  · next hzero => simpa using Nat.digits_ne_nil_iff_ne_zero.2 hzero

theorem lt_of_mem_digits (hbase : 1 < base) {d : Nat} (hd : d ∈ digits base n) : d < base := by
  rw [digits_eq hbase] at hd
  split at hd
  · rw [List.mem_singleton] at hd
    omega
  · exact Nat.digits_lt_base hbase (List.mem_reverse.1 hd)

theorem ofDigits_digits (hbase : 1 < base) (n : Nat) : Nat.ofDigits base (digits base n).reverse = n := by
  rw [digits_eq hbase]
  split
  · next hzero => simp [hzero]
  · rw [List.reverse_reverse, Nat.ofDigits_digits]

theorem head?_digits (hbase : 1 < base) (hlength : 1 < (digits base n).length) : (digits base n).head? ≠ some 0 := by
  rw [digits_eq hbase] at hlength ⊢
  split at hlength
  · simp at hlength
  · next hzero =>
    rw [if_neg hzero, List.head?_reverse, List.getLast?_eq_some_getLast (Nat.digits_ne_nil_iff_ne_zero.2 hzero)]
    intro h
    exact Nat.getLast_digit_ne_zero base hzero (Option.some.inj h)

/-! ### What is printed -/

theorem upperDigit_upperDigit {d : Nat} (hd : d < 16) : UpperDigit (upperDigit d) d := by
  have hall : ∀ d < 16, UpperDigit (upperDigit d) d := by decide
  exact hall d hd

theorem upperDigit_zero_iff {b : UInt8} : UpperDigit b 0 ↔ b = 0x30 := by
  show some 0x30 = some b ↔ b = 0x30
  rw [Option.some_inj, eq_comm]

theorem forall₂_upperDigit {ds : List Nat} (hds : ∀ d ∈ ds, d < 16) :
    List.Forall₂ UpperDigit (ds.map upperDigit) ds := by
  rw [List.forall₂_map_left_iff, List.forall₂_same]
  intro d hd
  exact upperDigit_upperDigit (hds d hd)

theorem printed_padLeft (hbase : 1 < base) (hsixteen : base ≤ 16) (hwidth : 1 ≤ width) (n : Nat) :
    Printed base width n (Bytes.padLeft width 0x30 ((digits base n).map upperDigit)) := by
  have hzero : upperDigit 0 = 0x30 := rfl
  -- the zeros in front are printed digits as well
  have hpad : Bytes.padLeft width 0x30 ((digits base n).map upperDigit) =
      (List.replicate (width - (digits base n).length) 0 ++ digits base n).map upperDigit := by
    rw [Bytes.padLeft, List.length_map, List.map_append, List.map_replicate, hzero]
  have hlt : ∀ d ∈ List.replicate (width - (digits base n).length) 0 ++ digits base n, d < base := by
    intro d hd
    rcases List.mem_append.1 hd with hd | hd
    · rw [List.eq_of_mem_replicate hd]
      omega
    · exact lt_of_mem_digits hbase hd
  rw [hpad]
  refine ⟨⟨_, forall₂_upperDigit fun d hd => Nat.lt_of_lt_of_le (hlt d hd) hsixteen, hlt, ?_⟩, ?_, ?_⟩
  · rw [List.reverse_append, List.reverse_replicate, Nat.ofDigits_append_replicate_zero, ofDigits_digits hbase]
  · rw [List.length_map, List.length_append, List.length_replicate]
    omega
  · intro hlong
    rw [List.length_map, List.length_append, List.length_replicate] at hlong
    have hnone : width - (digits base n).length = 0 := by omega
    have hhead : (digits base n).head? ≠ some 0 := head?_digits hbase (by omega)
    rw [hnone, List.replicate_zero, List.nil_append, List.head?_map]
    intro h
    obtain ⟨d, hd, hchar⟩ := Option.map_eq_some_iff.1 h
    have hall : ∀ d < 16, upperDigit d = 0x30 → d = 0 := by decide
    have hlt : d < base := lt_of_mem_digits hbase (List.mem_of_mem_head? hd)
    rw [hall d (by omega) hchar] at hd
    exact hhead hd

theorem printed_hexUpper (hwidth : 1 ≤ width) (n : Nat) : Printed 16 width n (hexUpper width n) :=
  printed_padLeft (by decide) (by decide) hwidth n

theorem printed_decimal (n : Nat) : Printed 10 1 n (decimal n) := by
  have hdigit : ∀ d ∈ digits 10 n, lowerDigit d = upperDigit d := by
    intro d hd
    have hlt : d < 10 := lt_of_mem_digits (by decide) hd
    rw [lowerDigit, upperDigit, if_pos hlt, if_pos hlt]
  have hlength : 0 < (digits 10 n).length := List.length_pos_of_ne_nil (digits_ne_nil (by decide) n)
  have hpad : decimal n = Bytes.padLeft 1 0x30 ((digits 10 n).map upperDigit) := by
    have hfull : 1 - (digits 10 n).length = 0 := by omega
    rw [decimal, List.map_congr_left hdigit, Bytes.padLeft, List.length_map, hfull, List.replicate_zero,
      List.nil_append]
  rw [hpad]
  exact printed_padLeft (by decide) (by decide) (Nat.le_refl 1) n

/-! ### What a printed number determines -/

namespace Printed

theorem foldlM_eq {ds : List Nat} (hds : List.Forall₂ UpperDigit t ds) (hlt : ∀ d ∈ ds, d < base) (value : Nat) :
    t.foldlM (fun value b => do
      let d ← hexDigit? b
      if d < base then some (value * base + d) else none) value =
        some (value * base ^ ds.length + Nat.ofDigits base ds.reverse) := by
  induction hds generalizing value with
  | nil => simp
  | @cons b d t ds hb _ ih =>
    have hd : d < base := hlt d List.mem_cons_self
    have hstep : (do
        let d ← hexDigit? b
        if d < base then some (value * base + d) else none) = some (value * base + d) := by
      simp [hexDigit?_eq_some_iff.2 (.inr hb), hd]
    have hrest := ih (fun d hd => hlt d (List.mem_cons_of_mem _ hd)) (value * base + d)
    rw [List.foldlM_cons, hstep]
    refine hrest.trans (congrArg some ?_)
    rw [Nat.ofDigits_reverse_cons, List.length_cons, Nat.pow_succ]
    ring

theorem digitsValue?_eq (h : Printed base width n t) (hwidth : 1 ≤ width) : digitsValue? base t = some n := by
  obtain ⟨ds, hds, hlt, hvalue⟩ := h.value
  have hempty : t.isEmpty ≠ true := by
    have hlength := h.width_le
    rw [Ne, List.isEmpty_iff_length_eq_zero]
    omega
  rw [digitsValue?, if_neg hempty, foldlM_eq hds hlt, hvalue, Nat.zero_mul, Nat.zero_add]

theorem not_mem (h : Printed base width n t) {b : UInt8} (hb : hexDigit? b = none) : b ∉ t := by
  obtain ⟨ds, hds, -, -⟩ := h.value
  intro hmem
  obtain ⟨i, hi, rfl⟩ := List.mem_iff_getElem.1 hmem
  have hdigit : UpperDigit t[i] (ds.get ⟨i, hds.length_eq ▸ hi⟩) := hds.get hi _
  rw [hexDigit?_eq_some_iff.2 (.inr hdigit)] at hb
  cases hb

theorem length_eq (h : Printed base width n t) (hn : n < base ^ width) : t.length = width := by
  refine Nat.le_antisymm (Nat.le_of_not_lt fun hlong => ?_) h.width_le
  obtain ⟨ds, hds, hlt, hvalue⟩ := h.value
  cases hds with
  | nil => simp at hlong
  | @cons b d t ds hb hrest =>
    have hlead : d ≠ 0 := by
      rintro rfl
      exact h.lead hlong (congrArg some (upperDigit_zero_iff.1 hb))
    have hbase : 0 < base := Nat.zero_lt_of_lt (hlt d List.mem_cons_self)
    rw [List.length_cons, hrest.length_eq] at hlong
    have hpow : base ^ width ≤ base ^ ds.length := Nat.pow_le_pow_right hbase (by omega)
    have hdigit : base ^ ds.length * 1 ≤ base ^ ds.length * d := Nat.mul_le_mul_left _ (by omega)
    rw [Nat.ofDigits_reverse_cons] at hvalue
    omega

theorem unique (hbase : 1 < base) {t' : Bytes} (h : Printed base width n t) (h' : Printed base width n t')
    (hn : n < base ^ width) : t = t' := by
  obtain ⟨ds, hds, hlt, hvalue⟩ := h.value
  obtain ⟨ds', hds', hlt', hvalue'⟩ := h'.value
  have hlength : ds.reverse.length = ds'.reverse.length := by
    rw [List.length_reverse, List.length_reverse, ← hds.length_eq, ← hds'.length_eq, h.length_eq hn, h'.length_eq hn]
  have hsame : ds.reverse = ds'.reverse := by
    apply Nat.ofDigits_inj_of_len_eq hbase hlength
    · exact fun d hd => hlt d (List.mem_reverse.1 hd)
    · exact fun d hd => hlt' d (List.mem_reverse.1 hd)
    · rw [hvalue, hvalue']
  rw [← List.reverse_injective hsame] at hds'
  have hcharacter : Relator.LeftUnique UpperDigit := fun b d b' hb hb' => Option.some.inj (Eq.trans hb.symm hb')
  exact List.left_unique_forall₂' hcharacter hds hds'

/-- Of two printed numbers, one behind the other, the first is the upper part of a longer one. -/
theorem append {width' n' : Nat} {t' : Bytes} (h : Printed base width n t) (h' : Printed base width' n' t')
    (hn : n < base ^ width) (hn' : n' < base ^ width') :
    Printed base (width + width') (n * base ^ width' + n') (t ++ t') := by
  obtain ⟨ds, hds, hlt, hvalue⟩ := h.value
  obtain ⟨ds', hds', hlt', hvalue'⟩ := h'.value
  have hlength : (t ++ t').length = width + width' := by
    rw [List.length_append, h.length_eq hn, h'.length_eq hn']
  refine ⟨⟨ds ++ ds', List.rel_append hds hds', ?_, ?_⟩, ?_, ?_⟩
  · intro d hd
    exact (List.mem_append.1 hd).elim (hlt d) (hlt' d)
  · rw [List.reverse_append, Nat.ofDigits_append, hvalue, hvalue', List.length_reverse, ← hds'.length_eq,
      h'.length_eq hn']
    ring
  · omega
  · omega

end Printed

theorem hexUpper_word (high low : UInt8) :
    hexUpper 4 (high.toNat * 256 + low.toNat) = hexUpper 2 high.toNat ++ hexUpper 2 low.toNat := by
  have hhigh := high.toNat_lt
  have hlow := low.toNat_lt
  have htwo : 1 ≤ 2 := by decide
  have hboth : Printed 16 (2 + 2) (high.toNat * 16 ^ 2 + low.toNat) (hexUpper 2 high.toNat ++ hexUpper 2 low.toNat) :=
    (printed_hexUpper htwo high.toNat).append (printed_hexUpper htwo low.toNat) (by omega) (by omega)
  exact (printed_hexUpper (by decide) _).unique (by decide) hboth (by omega)

end Chip8.Numeral
