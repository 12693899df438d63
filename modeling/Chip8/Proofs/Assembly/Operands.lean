import Chip8.Assembly.Operand
import Chip8.Proofs.Assembly.Grammar

/-!
# Operands and the texts they are read from

Each reader of an operand is tied to one relation of the grammar: it returns a value exactly if the
text and the value stand in the relation. A reader that gives `pure a` has found neither an error nor a
position past the end, so these statements say both what is accepted and what is not.
-/

namespace Chip8

namespace Reading

variable {α β : Type}

theorem pure_inj {a b : α} : (pure a : Reading α) = pure b ↔ a = b := by
  constructor
  · intro h
    exact Except.ok.inj (Option.some.inj h)
  · rintro rfl
    rfl

theorem throw_ne_pure (e : AsmError) (a : α) : (throw e : Reading α) ≠ pure a := by
  intro h
  cases Option.some.inj h

theorem bind_eq_pure_iff {r : Reading α} {f : α → Reading β} {b : β} :
    r >>= f = pure b ↔ ∃ a, r = pure a ∧ f a = pure b := by
  constructor
  · intro h
    cases hr : r.run with
    | none =>
      have hnone : (r >>= f).run = none := by rw [ExceptT.run_bind, hr]; rfl
      rw [h] at hnone
      cases hnone
    | some result =>
      cases result with
      | error e =>
        have herror : (r >>= f).run = some (.error e) := by rw [ExceptT.run_bind, hr]; rfl
        rw [h] at herror
        cases Option.some.inj herror
      | ok a =>
        have hpure : r = pure a := hr
        rw [hpure, pure_bind] at h
        exact ⟨a, hpure, h⟩
  · rintro ⟨a, rfl, hf⟩
    rw [pure_bind, hf]

theorem wrap_eq_pure_iff {r : Reading α} {f : α → β} {b : β} :
    (do return f (← r)) = (pure b : Reading β) ↔ ∃ a, r = pure a ∧ f a = b := by
  simp only [bind_eq_pure_iff, pure_inj]

end Reading

open Reading Grammar Numeral

namespace Operand

theorem hexBelow?_eq_some_iff {bound : Nat} {t : Bytes} {n : Nat} :
    hexBelow? bound t = some n ↔ HexNumber t n ∧ n < bound := by
  rw [hexBelow?, Option.filter_eq_some_iff, digitsValue?_eq_some_iff, decide_eq_true_eq]

theorem leadDigit?_eq_some_iff {b : UInt8} {d : Fin 16} : leadDigit? b = some d ↔ LowerDigit b d.val := by
  have hread : ∀ b : UInt8, (leadDigit? b).all fun d => LowerDigit b d.val := forall_byte (by decide +kernel)
  have hlower : ∀ d : Fin 16, (text "0123456789abcdef")[d.val]?.all fun b => leadDigit? b = some d := by
    decide +kernel
  constructor
  · intro h
    simpa [h] using hread b
  · intro hdigit
    simpa [show _ = some b from hdigit] using hlower d

theorem lead?_cons (b : UInt8) (rest : Bytes) : lead? (b :: rest) = pure (leadDigit? b) := rfl

theorem lead?_eq_some_iff {op : Bytes} {d : Fin 16} :
    lead? op = pure (some d) ↔ ∃ b rest, op = b :: rest ∧ LowerDigit b d.val := by
  cases op with
  | nil => simp [lead?, pure_inj]
  | cons b rest => simp [lead?_cons, pure_inj, leadDigit?_eq_some_iff]

theorem bounded_eq_pure_iff {α : Type} {bound : Nat} {t : Bytes} {f : Nat → α} {e : AsmError} {a : α} :
    (match hexBelow? bound t with
      | some n => pure (f n)
      | none => throw e : Reading α) = pure a ↔ ∃ n, HexNumber t n ∧ n < bound ∧ f n = a := by
  cases hvalue : hexBelow? bound t with
  | none =>
    have hnone : ∀ n, ¬(HexNumber t n ∧ n < bound) := by simp [← hexBelow?_eq_some_iff, hvalue]
    constructor
    · intro h
      exact absurd h (throw_ne_pure e a)
    · rintro ⟨n, hn, hlt, -⟩
      exact absurd ⟨hn, hlt⟩ (hnone n)
  | some value =>
    have hsome : ∀ n, HexNumber t n ∧ n < bound ↔ value = n := by simp [← hexBelow?_eq_some_iff, hvalue]
    simp only [pure_inj, ← and_assoc, hsome, exists_eq_left']

theorem digit_eq_pure_iff {b : UInt8} {e : AsmError} {d : Fin 16} :
    (match hexBelow? 16 [b] with
      | some n => pure (lastDigit n)
      | none => throw e : Reading (Fin 16)) = pure d ↔ HexDigit b d.val := by
  rw [bounded_eq_pure_iff]
  constructor
  · rintro ⟨n, hnumber, hn, rfl⟩
    rw [val_lastDigit, Nat.mod_eq_of_lt hn]
    exact hexNumber_singleton.1 hnumber
  · intro hdigit
    exact ⟨d.val, hexNumber_singleton.2 hdigit, d.isLt, lastDigit_val d⟩

theorem byteValue_eq_pure_iff {α : Type} {t : Bytes} {f : UInt8 → α} {e : AsmError} {a : α} :
    (match hexBelow? 256 t with
      | some n => pure (f n.toUInt8)
      | none => throw e : Reading α) = pure a ↔ ∃ k, ByteText t k ∧ f k = a := by
  rw [bounded_eq_pure_iff (f := fun n => f n.toUInt8)]
  constructor
  · rintro ⟨n, hnumber, hn, rfl⟩
    refine ⟨n.toUInt8, ?_, rfl⟩
    rw [ByteText, Nat.toUInt8, UInt8.toNat_ofNat', Nat.mod_eq_of_lt hn]
    exact hnumber
  · rintro ⟨k, hbyte, rfl⟩
    exact ⟨k.toNat, hbyte, k.toNat_lt, congrArg f UInt8.ofNat_toNat⟩

theorem text_V : text "V" = [0x56] := by decide

theorem isRegister_iff {op : Bytes} : isRegister op = true ↔ ∃ rest, op = 0x56 :: rest := by
  rw [isRegister, text_V, List.isPrefixOf_iff_prefix]
  constructor
  · rintro ⟨rest, rfl⟩
    exact ⟨rest, rfl⟩
  · rintro ⟨rest, rfl⟩
    exact ⟨rest, rfl⟩

theorem register_eq_pure_iff {name op : Bytes} {x : Register} :
    register name op = pure x ↔ RegisterText op x := by
  unfold register RegisterText
  rw [text_V]
  split
  · next h =>
    constructor
    · intro hthrow
      exact absurd hthrow (throw_ne_pure _ _)
    · rintro ⟨b, rfl, -⟩
      exact absurd h (by simp [isRegister_iff])
  · next h =>
    obtain ⟨hlength, hregister⟩ : op.length = 2 ∧ isRegister op = true := by simpa using h
    obtain ⟨digit, rfl⟩ := isRegister_iff.1 hregister
    obtain ⟨b, rfl⟩ : ∃ b, digit = [b] := List.length_eq_one_iff.1 (by simpa using hlength)
    refine (digit_eq_pure_iff (b := b)).trans ?_
    simp

theorem nibble_eq_pure_iff {name op : Bytes} {n : Fin 16} : nibble name op = pure n ↔ NibbleText op n := by
  unfold nibble NibbleText
  split
  · next h =>
    constructor
    · intro hthrow
      exact absurd hthrow (throw_ne_pure _ _)
    · rintro ⟨b, rfl, -⟩
      exact absurd rfl h
  · next h =>
    obtain ⟨b, rfl⟩ : ∃ b, op = [b] := List.length_eq_one_iff.1 (by simpa using h)
    refine digit_eq_pure_iff.trans ?_
    simp

theorem hexByte_eq_pure_iff {name op : Bytes} {k : UInt8} : hexByte name op = pure k ↔ ByteText op k := by
  refine (byteValue_eq_pure_iff (f := id)).trans ?_
  simp

theorem byte_eq_pure_iff {name op : Bytes} {k : UInt8} : byte name op = pure k ↔ LowerByteText op k := by
  unfold byte LowerByteText
  rw [bind_eq_pure_iff]
  constructor
  · rintro ⟨lead, hlead, hbyte⟩
    cases lead with
    | none => exact absurd hbyte (throw_ne_pure _ _)
    | some d =>
      obtain ⟨b, rest, rfl, hd⟩ := lead?_eq_some_iff.1 hlead
      exact ⟨hexByte_eq_pure_iff.1 hbyte, b, rest, d, rfl, hd⟩
  · rintro ⟨hbyte, b, rest, d, rfl, hd⟩
    exact ⟨some ⟨d, hd.lt⟩, lead?_eq_some_iff.2 ⟨b, rest, rfl, hd⟩, hexByte_eq_pure_iff.2 hbyte⟩

theorem address_eq_pure_iff {name op : Bytes} {a : Address} : address name op = pure a ↔ AddressText op a := by
  unfold address AddressText
  rw [bind_eq_pure_iff]
  constructor
  · rintro ⟨lead, hlead, hoffset⟩
    cases lead with
    | none => exact absurd hoffset (throw_ne_pure _ _)
    | some page =>
      obtain ⟨b, rest, rfl, hpage⟩ := lead?_eq_some_iff.1 hlead
      obtain ⟨k, hk, rfl⟩ := (byteValue_eq_pure_iff (f := fun k => Address.mk page k)).1 hoffset
      exact ⟨b, rest, rfl, hpage, hk⟩
  · rintro ⟨b, rest, rfl, hpage, hoffset⟩
    refine ⟨some a.page, lead?_eq_some_iff.2 ⟨b, rest, rfl, hpage⟩, ?_⟩
    exact (byteValue_eq_pure_iff (f := fun k => Address.mk a.page k)).2 ⟨a.offset, hoffset, rfl⟩

theorem isRegister_of_registerText {t : Bytes} {x : Register} (ht : RegisterText t x) : isRegister t = true := by
  obtain ⟨b, rfl, -⟩ := ht
  exact isRegister_iff.2 ⟨[b], by rw [text_V]; rfl⟩

theorem isRegister_of_byteText {t : Bytes} {k : UInt8} (ht : ByteText t k) : isRegister t = false := by
  obtain ⟨b, rest, v, rfl, hb⟩ := ht.exists_cons
  rw [Bool.eq_false_iff, ne_eq, isRegister_iff]
  rintro ⟨rest', hcons⟩
  obtain rfl : b = 0x56 := (List.cons.inj hcons).1
  exact absurd (hexDigit?_eq_some_iff.2 hb) (by simp [hexDigit?])

theorem lead?_of_lowerByteText {t : Bytes} {k : UInt8} (ht : LowerByteText t k) :
    ∃ d, lead? t = pure (some d) := by
  obtain ⟨-, b, rest, d, rfl, hd⟩ := ht
  exact ⟨⟨d, hd.lt⟩, lead?_eq_some_iff.2 ⟨b, rest, rfl, hd⟩⟩

end Operand

end Chip8
