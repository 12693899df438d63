import Chip8.Assembly.Encode
import Chip8.Proofs.Assembly.Operands

/-!
# Encoding accepts the grammar and nothing else

The reader of each mnemonic follows the forms of that mnemonic, and the cutting of a line follows its
layout; `encode_word_iff_derives` puts the two together with the table of words. One direction runs
along the branches of a reader and names the form each of them is; the other runs over the forms and
shows that no earlier branch takes their operands away.
-/

namespace Chip8

open Reading Grammar Operand

namespace Mnemonic

@[simp] theorem operandAt_cons_zero (op : Bytes) (rest : List Bytes) : operandAt (op :: rest) 0 = pure op := rfl

@[simp] theorem operandAt_cons_succ (op : Bytes) (rest : List Bytes) (n : Nat) :
    operandAt (op :: rest) (n + 1) = operandAt rest n := rfl

theorem exists_cons_of_operandAt {operands : List Bytes} {op : Bytes} (h : operandAt operands 0 = pure op) :
    ∃ rest, operands = op :: rest := by
  cases operands with
  | nil => cases h
  | cons first rest => exact ⟨rest, by rw [pure_inj.1 h]⟩

theorem readPair_eq_pure_iff {name : Bytes} {operands : List Bytes} {make : Register → Register → Instruction}
    {i : Instruction} : readPair name operands make = pure i ↔
      ∃ s t rest x y, operands = s :: t :: rest ∧ RegisterText s x ∧ RegisterText t y ∧ make x y = i := by
  constructor
  · intro h
    simp only [readPair, bind_eq_pure_iff, pure_inj] at h
    obtain ⟨s, hs, x, hx, t, ht, y, hy, rfl⟩ := h
    obtain ⟨others, rfl⟩ := exists_cons_of_operandAt hs
    obtain ⟨rest, rfl⟩ := exists_cons_of_operandAt ht
    exact ⟨s, t, rest, x, y, rfl, register_eq_pure_iff.1 hx, register_eq_pure_iff.1 hy, rfl⟩
  · rintro ⟨s, t, rest, x, y, rfl, hs, ht, rfl⟩
    simp [readPair, register_eq_pure_iff.2 hs, register_eq_pure_iff.2 ht]

theorem readJump_eq_pure_iff {name : Bytes} {operands : List Bytes} {i : Instruction} :
    readJump name operands = pure i ↔ Form .jp operands i := by
  constructor
  · intro h
    obtain ⟨s, hs, hform⟩ := bind_eq_pure_iff.1 h
    obtain ⟨others, rfl⟩ := exists_cons_of_operandAt hs
    -- The number of operands picks the form before any of them is read.
    split at hform
    · next hone =>
      obtain rfl : others = [] := by simpa using hone
      obtain ⟨a, ha, rfl⟩ := wrap_eq_pure_iff.1 hform
      exact .jump (address_eq_pure_iff.1 ha)
    · split at hform
      · exact absurd hform (throw_ne_pure _ _)
      · next hoffset =>
        obtain rfl : s = text "V0" := by simpa using hoffset
        obtain ⟨t, ht, hrest⟩ := bind_eq_pure_iff.1 hform
        obtain ⟨rest, rfl⟩ := exists_cons_of_operandAt ht
        obtain ⟨a, ha, rfl⟩ := wrap_eq_pure_iff.1 hrest
        exact .jumpOffset (address_eq_pure_iff.1 ha)
  · intro hform
    cases hform with
    | jump ht => simp [readJump, address_eq_pure_iff.2 ht]
    | jumpOffset ht => simp [readJump, address_eq_pure_iff.2 ht]

theorem readSkip_eq_pure_iff {name : Bytes} {operands : List Bytes} {i : Instruction} :
    readSkip name operands = pure i ↔ Form .se operands i := by
  constructor
  · intro h
    simp only [readSkip, bind_eq_pure_iff] at h
    obtain ⟨s, hs, x, hx, t, ht, hform⟩ := h
    obtain ⟨others, rfl⟩ := exists_cons_of_operandAt hs
    obtain ⟨rest, rfl⟩ := exists_cons_of_operandAt ht
    split at hform
    · obtain ⟨y, hy, rfl⟩ := wrap_eq_pure_iff.1 hform
      exact .skipIfSame (register_eq_pure_iff.1 hx) (register_eq_pure_iff.1 hy)
    · obtain ⟨lead, -, hrest⟩ := bind_eq_pure_iff.1 hform
      cases lead with
      | none => exact absurd hrest (throw_ne_pure _ _)
      | some d =>
        obtain ⟨k, hk, rfl⟩ := wrap_eq_pure_iff.1 hrest
        exact .skipIfByte (register_eq_pure_iff.1 hx) (byte_eq_pure_iff.1 hk)
  · intro hform
    cases hform with
    | skipIfSame hs ht =>
      simp [readSkip, register_eq_pure_iff.2 hs, register_eq_pure_iff.2 ht, isRegister_of_registerText ht]
    | skipIfByte hs ht =>
      obtain ⟨d, hd⟩ := lead?_of_lowerByteText ht
      simp [readSkip, register_eq_pure_iff.2 hs, byte_eq_pure_iff.2 ht, isRegister_of_byteText ht.1, hd]

theorem form_of_specialSource? {s t : Bytes} {x : Register} {rest : List Bytes} {make : Register → Instruction}
    (hspecial : specialSource? t = some make) (hs : RegisterText s x) : Form .ld (s :: t :: rest) (make x) := by
  unfold specialSource? at hspecial
  split at hspecial
  · next ht =>
    rw [ht, ← Option.some.inj hspecial]
    exact .loadDelay hs
  split at hspecial
  · next ht =>
    rw [ht, ← Option.some.inj hspecial]
    exact .loadKey hs
  split at hspecial
  · next ht =>
    rw [ht, ← Option.some.inj hspecial]
    exact .loadMemory hs
  · cases hspecial

theorem form_of_specialTarget? {s t : Bytes} {x : Register} {rest : List Bytes} {make : Register → Instruction}
    (hspecial : specialTarget? s = some make) (ht : RegisterText t x) : Form .ld (s :: t :: rest) (make x) := by
  unfold specialTarget? at hspecial
  split at hspecial
  · next hs =>
    rw [hs, ← Option.some.inj hspecial]
    exact .storeDelay ht
  split at hspecial
  · next hs =>
    rw [hs, ← Option.some.inj hspecial]
    exact .storeSound ht
  split at hspecial
  · next hs =>
    rw [hs, ← Option.some.inj hspecial]
    exact .pointAtDigit ht
  split at hspecial
  · next hs =>
    rw [hs, ← Option.some.inj hspecial]
    exact .storeDecimal ht
  split at hspecial
  · next hs =>
    rw [hs, ← Option.some.inj hspecial]
    exact .storeMemory ht
  · cases hspecial

theorem specialSource?_eq_none {t : Bytes} (ht : isRegister t = true ∨ lead? t ≠ pure none) :
    specialSource? t = none := by
  have hword : ∀ word : Bytes, isRegister word = false → lead? word = pure none → t ≠ word := by
    rintro word hregister hlead rfl
    simp [hregister, hlead] at ht
  unfold specialSource?
  rw [if_neg (hword _ (by decide) rfl), if_neg (hword _ (by decide) rfl), if_neg (hword _ (by decide) rfl)]

theorem readLoadInto_eq_pure {name s t : Bytes} {x : Register} {rest : List Bytes} {i : Instruction}
    (hs : RegisterText s x) (h : readLoadInto name x t = pure i) : Form .ld (s :: t :: rest) i := by
  unfold readLoadInto at h
  split at h
  · next make hspecial =>
    rw [← pure_inj.1 h]
    exact form_of_specialSource? hspecial hs
  · split at h
    · obtain ⟨y, hy, rfl⟩ := wrap_eq_pure_iff.1 h
      exact .loadRegister hs (register_eq_pure_iff.1 hy)
    · obtain ⟨lead, -, hbyte⟩ := bind_eq_pure_iff.1 h
      cases lead with
      | none => exact absurd hbyte (throw_ne_pure _ _)
      | some d =>
        obtain ⟨k, hk, rfl⟩ := wrap_eq_pure_iff.1 hbyte
        exact .loadByte hs (byte_eq_pure_iff.1 hk)

/-- A load whose first operand is a register goes by its second operand. -/
theorem readLoad_of_registerText {name s t : Bytes} {x : Register} {rest : List Bytes} (hs : RegisterText s x) :
    readLoad name (s :: t :: rest) = readLoadInto name x t := by
  simp [readLoad, isRegister_of_registerText hs, register_eq_pure_iff.2 hs]

theorem readLoad_eq_pure_iff {name : Bytes} {operands : List Bytes} {i : Instruction} :
    readLoad name operands = pure i ↔ Form .ld operands i := by
  constructor
  · intro h
    simp only [readLoad, bind_eq_pure_iff] at h
    obtain ⟨s, hs, t, ht, hform⟩ := h
    obtain ⟨others, rfl⟩ := exists_cons_of_operandAt hs
    obtain ⟨rest, rfl⟩ := exists_cons_of_operandAt ht
    split at hform
    · obtain ⟨x, hx, hinto⟩ := bind_eq_pure_iff.1 hform
      exact readLoadInto_eq_pure (register_eq_pure_iff.1 hx) hinto
    split at hform
    · next hindex =>
      obtain ⟨a, ha, rfl⟩ := wrap_eq_pure_iff.1 hform
      rw [hindex]
      exact .loadIndex (address_eq_pure_iff.1 ha)
    split at hform
    · next make hspecial =>
      obtain ⟨x, hx, rfl⟩ := wrap_eq_pure_iff.1 hform
      exact form_of_specialTarget? hspecial (register_eq_pure_iff.1 hx)
    · exact absurd hform (throw_ne_pure _ _)
  · intro hform
    -- The special words are tried first, so a register or a number must be shown to be none of them.
    cases hform with
    | loadRegister hs ht =>
      have hregister := isRegister_of_registerText ht
      rw [readLoad_of_registerText hs, readLoadInto, specialSource?_eq_none (.inl hregister)]
      simp [hregister, register_eq_pure_iff.2 ht]
    | loadByte hs ht =>
      obtain ⟨d, hd⟩ := lead?_of_lowerByteText ht
      rw [readLoad_of_registerText hs, readLoadInto, specialSource?_eq_none (.inr (by simp [hd, pure_inj]))]
      simp [isRegister_of_byteText ht.1, hd, byte_eq_pure_iff.2 ht]
    | loadDelay hs => exact readLoad_of_registerText hs
    | loadKey hs => exact readLoad_of_registerText hs
    | loadMemory hs => exact readLoad_of_registerText hs
    | loadIndex ht => exact wrap_eq_pure_iff.2 ⟨_, address_eq_pure_iff.2 ht, rfl⟩
    | storeDelay ht => exact wrap_eq_pure_iff.2 ⟨_, register_eq_pure_iff.2 ht, rfl⟩
    | storeSound ht => exact wrap_eq_pure_iff.2 ⟨_, register_eq_pure_iff.2 ht, rfl⟩
    | pointAtDigit ht => exact wrap_eq_pure_iff.2 ⟨_, register_eq_pure_iff.2 ht, rfl⟩
    | storeDecimal ht => exact wrap_eq_pure_iff.2 ⟨_, register_eq_pure_iff.2 ht, rfl⟩
    | storeMemory ht => exact wrap_eq_pure_iff.2 ⟨_, register_eq_pure_iff.2 ht, rfl⟩

theorem readAdd_eq_pure_iff {name : Bytes} {operands : List Bytes} {i : Instruction} :
    readAdd name operands = pure i ↔ Form .add operands i := by
  constructor
  · intro h
    simp only [readAdd, bind_eq_pure_iff] at h
    obtain ⟨s, hs, t, ht, hform⟩ := h
    obtain ⟨others, rfl⟩ := exists_cons_of_operandAt hs
    obtain ⟨rest, rfl⟩ := exists_cons_of_operandAt ht
    split at hform
    · next hindex =>
      obtain ⟨x, hx, rfl⟩ := wrap_eq_pure_iff.1 hform
      rw [hindex]
      exact .addToIndex (register_eq_pure_iff.1 hx)
    split at hform
    · exact absurd hform (throw_ne_pure _ _)
    · obtain ⟨x, hx, hsecond⟩ := bind_eq_pure_iff.1 hform
      split at hsecond
      · obtain ⟨y, hy, rfl⟩ := wrap_eq_pure_iff.1 hsecond
        exact .addRegister (register_eq_pure_iff.1 hx) (register_eq_pure_iff.1 hy)
      · obtain ⟨k, hk, rfl⟩ := wrap_eq_pure_iff.1 hsecond
        exact .addByte (register_eq_pure_iff.1 hx) (hexByte_eq_pure_iff.1 hk)
  · intro hform
    -- A register is not spelled like the index register.
    have hindex : ∀ {s : Bytes} {x : Register}, RegisterText s x → s ≠ text "I" := by
      rintro s x hs rfl
      exact absurd (isRegister_of_registerText hs) (by decide)
    cases hform with
    | addToIndex ht => exact wrap_eq_pure_iff.2 ⟨_, register_eq_pure_iff.2 ht, rfl⟩
    | addRegister hs ht =>
      simp [readAdd, hindex hs, isRegister_of_registerText hs, isRegister_of_registerText ht, register_eq_pure_iff.2 hs,
        register_eq_pure_iff.2 ht]
    | addByte hs ht =>
      simp [readAdd, hindex hs, isRegister_of_registerText hs, isRegister_of_byteText ht, register_eq_pure_iff.2 hs,
        hexByte_eq_pure_iff.2 ht]

theorem readRandom_eq_pure_iff {name : Bytes} {operands : List Bytes} {i : Instruction} :
    readRandom name operands = pure i ↔ Form .rnd operands i := by
  constructor
  · intro h
    simp only [readRandom, bind_eq_pure_iff, pure_inj] at h
    obtain ⟨s, hs, x, hx, t, ht, k, hk, rfl⟩ := h
    obtain ⟨others, rfl⟩ := exists_cons_of_operandAt hs
    obtain ⟨rest, rfl⟩ := exists_cons_of_operandAt ht
    exact .random (register_eq_pure_iff.1 hx) (hexByte_eq_pure_iff.1 hk)
  · intro hform
    cases hform with
    | random hs ht => simp [readRandom, register_eq_pure_iff.2 hs, hexByte_eq_pure_iff.2 ht]

theorem readDraw_eq_pure_iff {name : Bytes} {operands : List Bytes} {i : Instruction} :
    readDraw name operands = pure i ↔ Form .drw operands i := by
  constructor
  · intro h
    simp only [readDraw, bind_eq_pure_iff, pure_inj] at h
    obtain ⟨s, hs, x, hx, t, ht, y, hy, u, hu, n, hn, rfl⟩ := h
    obtain ⟨others, rfl⟩ := exists_cons_of_operandAt hs
    obtain ⟨more, rfl⟩ := exists_cons_of_operandAt ht
    obtain ⟨rest, rfl⟩ := exists_cons_of_operandAt hu
    exact .draw (register_eq_pure_iff.1 hx) (register_eq_pure_iff.1 hy) (nibble_eq_pure_iff.1 hn)
  · intro hform
    cases hform with
    | draw hs ht hu =>
      simp [readDraw, register_eq_pure_iff.2 hs, register_eq_pure_iff.2 ht, nibble_eq_pure_iff.2 hu]

theorem readFirst_eq_pure_iff {α : Type} {operands : List Bytes} {read : Bytes → Reading α}
    {make : α → Instruction} {i : Instruction} :
    (do return make (← read (← operandAt operands 0))) = (pure i : Reading Instruction) ↔
      ∃ s rest a, operands = s :: rest ∧ read s = pure a ∧ make a = i := by
  constructor
  · intro h
    simp only [bind_eq_pure_iff, pure_inj] at h
    obtain ⟨s, hs, a, ha, rfl⟩ := h
    obtain ⟨rest, rfl⟩ := exists_cons_of_operandAt hs
    exact ⟨s, rest, a, rfl, ha, rfl⟩
  · rintro ⟨s, rest, a, rfl, ha, rfl⟩
    simp [ha]

theorem select_eq_pure_iff {m : Mnemonic} {operands : List Bytes} {i : Instruction} :
    m.select operands = pure i ↔ Form m operands i := by
  cases m with
  | nop | cls | ret =>
    refine pure_inj.trans ⟨?_, ?_⟩
    · rintro rfl
      constructor
    · intro hform
      cases hform
      rfl
  | jp => exact readJump_eq_pure_iff
  | se => exact readSkip_eq_pure_iff
  | ld => exact readLoad_eq_pure_iff
  | add => exact readAdd_eq_pure_iff
  | rnd => exact readRandom_eq_pure_iff
  | drw => exact readDraw_eq_pure_iff
  | or | and | xor | sub | shr | subn | shl | sne =>
    refine readPair_eq_pure_iff.trans ⟨?_, ?_⟩
    · rintro ⟨s, t, rest, x, y, rfl, hs, ht, rfl⟩
      constructor <;> assumption
    · intro hform
      cases hform
      next hs ht => exact ⟨_, _, _, _, _, rfl, hs, ht, rfl⟩
  | call =>
    refine readFirst_eq_pure_iff.trans ⟨?_, ?_⟩
    · rintro ⟨s, rest, a, rfl, ha, rfl⟩
      exact .call (address_eq_pure_iff.1 ha)
    · intro hform
      cases hform
      next ht => exact ⟨_, _, _, rfl, address_eq_pure_iff.2 ht, rfl⟩
  | skp | sknp =>
    refine readFirst_eq_pure_iff.trans ⟨?_, ?_⟩
    · rintro ⟨s, rest, x, rfl, hx, rfl⟩
      constructor
      exact register_eq_pure_iff.1 hx
    · intro hform
      cases hform
      next hs => exact ⟨_, _, _, rfl, register_eq_pure_iff.2 hs, rfl⟩

end Mnemonic

namespace Grammar

theorem Form.arity_le {m : Mnemonic} {operands : List Bytes} {i : Instruction} (hform : Form m operands i) :
    m.arity ≤ operands.length := by
  cases hform <;> simp [Mnemonic.arity]

theorem forall₂_trimmed_iff {words operands : List Bytes} :
    List.Forall₂ (Bytes.Trimmed 0x2C) words operands ↔ words.map (Bytes.dropFinal 0x2C) = operands := by
  rw [← List.forall₂_eq_eq_eq, List.forall₂_map_left_iff]
  simp only [Bytes.dropFinal_eq_iff]

end Grammar

namespace Statement

theorem read_eq_pure_iff {s : Statement} {i : Instruction} :
    s.read = pure i ↔ ∃ m : Mnemonic, s.mnemonic = m.name ∧ Form m s.operands i := by
  unfold read
  constructor
  · intro h
    split at h
    · exact absurd h (throw_ne_pure _ _)
    · next m hm =>
      split at h
      · exact absurd h (throw_ne_pure _ _)
      · exact ⟨m, (Mnemonic.name_of_ofName? hm).symm, Mnemonic.select_eq_pure_iff.1 h⟩
  · rintro ⟨m, hm, hform⟩
    rw [hm, Mnemonic.ofName?_name]
    -- A form has at least as many operands as its mnemonic asks for, so the count refuses none.
    exact (if_neg (Nat.not_lt.2 hform.arity_le)).trans (Mnemonic.select_eq_pure_iff.2 hform)

theorem ofLine?_eq_some_iff {line : Bytes} {s : Statement} :
    ofLine? line = some s ↔ Layout line s.mnemonic s.operands := by
  have hsplit : ∀ word words, Bytes.splitOn 0x20 line = word :: words ↔
      line = Bytes.join (text " ") (word :: words) ∧ ∀ w ∈ word :: words, 0x20 ∉ w := by
    intro word words
    rw [Bytes.splitOn_eq_iff, show text " " = [0x20] by decide]
    simp
  unfold ofLine? Layout
  simp only [forall₂_trimmed_iff, ← and_assoc, ← hsplit]
  cases Bytes.splitOn 0x20 line with
  | nil => simp
  | cons word words =>
    cases s
    simp [and_assoc, eq_comm]

end Statement

/-- A line has an instruction exactly if the grammar gives it one. -/
theorem reading_eq_ok_iff {line : Bytes} {i : Instruction} : reading line = .ok i ↔ ∃ m, Reads line m i := by
  have hrun : reading line = .ok i ↔ ∃ s, Statement.ofLine? line = some s ∧ s.read = pure i := by
    rw [← Option.some_inj, some_reading, reading?, Option.bind_eq_some_iff]
    rfl
  rw [hrun]
  constructor
  · rintro ⟨s, hline, hread⟩
    obtain ⟨m, hm, hform⟩ := Statement.read_eq_pure_iff.1 hread
    refine ⟨m, s.operands, ?_, hform⟩
    rw [← hm]
    exact Statement.ofLine?_eq_some_iff.1 hline
  · rintro ⟨m, operands, hlayout, hform⟩
    exact ⟨⟨m.name, operands⟩, Statement.ofLine?_eq_some_iff.2 hlayout,
      Statement.read_eq_pure_iff.2 ⟨m, rfl, hform⟩⟩

theorem encode_eq_ok_iff {line : Bytes} {op : Opcode} :
    encode line = .ok op ↔ ∃ m i, Reads line m i ∧ i.opcode = op := by
  unfold encode
  cases hreading : reading line with
  | error e =>
    have hnone : ∀ m i, ¬Reads line m i := by
      intro m i hreads
      rw [reading_eq_ok_iff.2 ⟨m, hreads⟩] at hreading
      cases hreading
    simp [Except.map, hnone]
  | ok i =>
    obtain ⟨m, hm⟩ := reading_eq_ok_iff.1 hreading
    constructor
    · intro h
      exact ⟨m, i, hm, Except.ok.inj h⟩
    · rintro ⟨m', j, hj, rfl⟩
      rw [reading_eq_ok_iff.2 ⟨m', hj⟩] at hreading
      rw [Except.ok.inj hreading]
      rfl

namespace Instruction

theorem word_addressed (lead : Fin 16) (a : Address) : (addressed lead a).word = 0x1000 * lead.val + a.value := by
  simp only [addressed, Opcode.word, toNat_packNibbles, Address.value]
  omega

theorem word_immediate (lead : Fin 16) (x : Register) (k : UInt8) :
    (immediate lead x k).word = 0x1000 * lead.val + 0x100 * x.val + k.toNat := by
  simp only [immediate, Opcode.word, toNat_packNibbles]
  omega

theorem word_paired (lead : Fin 16) (x y : Register) (last : Fin 16) :
    (paired lead x y last).word = 0x1000 * lead.val + 0x100 * x.val + 0x10 * y.val + last.val := by
  simp only [paired, Opcode.word, toNat_packNibbles]
  omega

theorem word_opcode (i : Instruction) : i.opcode.word = i.word := by
  cases i with
  | nop | clearScreen | returnFromCall => rfl
  | pair op x y =>
    rw [opcode, word_paired]
    cases op <;> simp [word, PairOp.code] <;> omega
  | _ => simp [opcode, word, word_addressed, word_immediate, word_paired] <;> omega

end Instruction

/-- Encoding a line gives a word exactly if the line is a statement of the grammar with that word. -/
theorem encode_word_iff_derives (line : Bytes) (w : Nat) :
    (∃ op, encode line = .ok op ∧ op.word = w) ↔ Derives line w := by
  constructor
  · rintro ⟨op, hop, rfl⟩
    obtain ⟨m, i, hreads, rfl⟩ := encode_eq_ok_iff.1 hop
    exact ⟨m, i, hreads, i.word_opcode.symm⟩
  · rintro ⟨m, i, hreads, rfl⟩
    exact ⟨i.opcode, encode_eq_ok_iff.2 ⟨m, i, hreads, rfl⟩, i.word_opcode⟩

end Chip8
