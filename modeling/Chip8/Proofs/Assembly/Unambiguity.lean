import Chip8.Proofs.Assembly.Acceptance

/-!
# A word names one instruction

The instruction can be read off its word: the first digit picks a family, and within the families
that share a first digit the last digit or the low byte picks the member. So the word determines the
form, its registers and its numbers, and with them the mnemonic that was written. What is lost in the
word is spelling alone: case, leading zeros, commas and the operands behind a form.
-/

namespace Chip8

def highNibble (b : UInt8) : Fin 16 := lastDigit (b.toNat / 16)

def lowNibble (b : UInt8) : Fin 16 := lastDigit b.toNat

@[simp] theorem highNibble_packNibbles (high low : Fin 16) : highNibble (packNibbles high low) = high := by
  ext
  simp only [highNibble, toNat_packNibbles, val_lastDigit]
  omega

@[simp] theorem lowNibble_packNibbles (high low : Fin 16) : lowNibble (packNibbles high low) = low := by
  ext
  simp only [lowNibble, toNat_packNibbles, val_lastDigit]
  omega

namespace Opcode

/-- The operation on two registers that a last digit stands for, among those that begin with 8. -/
def decodePair? (x y last : Fin 16) : Option Instruction :=
  match last.val with
  | 0x0 => some (.loadRegister x y)
  | 0x1 => some (.pair .or x y)
  | 0x2 => some (.pair .and x y)
  | 0x3 => some (.pair .xor x y)
  | 0x4 => some (.addRegister x y)
  | 0x5 => some (.pair .sub x y)
  | 0x6 => some (.pair .shr x y)
  | 0x7 => some (.pair .subn x y)
  | 0xE => some (.pair .shl x y)
  | _ => none

/-- The operation on one register that a low byte stands for, among those that begin with F. -/
def decodeSpecial? (x : Fin 16) (low : UInt8) : Option Instruction :=
  match low.toNat with
  | 0x07 => some (.loadDelay x)
  | 0x0A => some (.loadKey x)
  | 0x15 => some (.storeDelay x)
  | 0x18 => some (.storeSound x)
  | 0x1E => some (.addToIndex x)
  | 0x29 => some (.pointAtDigit x)
  | 0x33 => some (.storeDecimal x)
  | 0x55 => some (.storeMemory x)
  | 0x65 => some (.loadMemory x)
  | _ => none

/-- The instruction with four given digits, of which the last two are also given as a byte. -/
def decodeDigits? (lead x y last : Fin 16) (low : UInt8) : Option Instruction :=
  match lead.val with
  | 0x0 =>
    if x.val = 0 ∧ low = 0x00 then some .nop
    else if x.val = 0 ∧ low = 0xE0 then some .clearScreen
    else if x.val = 0 ∧ low = 0xEE then some .returnFromCall
    else none
  | 0x1 => some (.jump ⟨x, low⟩)
  | 0x2 => some (.call ⟨x, low⟩)
  | 0x3 => some (.skipIfByte x low)
  | 0x5 => if last.val = 0 then some (.skipIfSame x y) else none
  | 0x6 => some (.loadByte x low)
  | 0x7 => some (.addByte x low)
  | 0x8 => decodePair? x y last
  | 0x9 => if last.val = 0 then some (.skipIfOther x y) else none
  | 0xA => some (.loadIndex ⟨x, low⟩)
  | 0xB => some (.jumpOffset ⟨x, low⟩)
  | 0xC => some (.random x low)
  | 0xD => some (.draw x y last)
  | 0xE =>
    if low = 0x9E then some (.skipIfPressed x)
    else if low = 0xA1 then some (.skipIfReleased x)
    else none
  | 0xF => decodeSpecial? x low
  | _ => none

def decode? (op : Opcode) : Option Instruction :=
  decodeDigits? (highNibble op.high) (lowNibble op.high) (highNibble op.low) (lowNibble op.low) op.low

end Opcode

namespace Instruction

open Opcode

theorem decode?_immediate (lead : Fin 16) (x : Register) (k : UInt8) :
    (immediate lead x k).decode? = decodeDigits? lead x (highNibble k) (lowNibble k) k := by
  simp [immediate, decode?]

theorem decode?_addressed (lead : Fin 16) (a : Address) :
    (addressed lead a).decode? = decodeDigits? lead a.page (highNibble a.offset) (lowNibble a.offset) a.offset :=
  decode?_immediate lead a.page a.offset

theorem decode?_paired (lead : Fin 16) (x y : Register) (last : Fin 16) :
    (paired lead x y last).decode? = decodeDigits? lead x y last (packNibbles y last) := by
  simp [paired, decode?]

theorem decode?_opcode (i : Instruction) : i.opcode.decode? = some i := by
  cases i with
  | nop | clearScreen | returnFromCall => rfl
  | jump | jumpOffset | call | loadIndex =>
    rw [opcode, decode?_addressed]
    rfl
  | skipIfSame | loadRegister | addRegister | skipIfOther | draw =>
    rw [opcode, decode?_paired]
    rfl
  | pair op x y =>
    rw [opcode, decode?_paired]
    cases op <;> rfl
  | _ =>
    rw [opcode, decode?_immediate]
    rfl

theorem opcode_inj {i j : Instruction} : i.opcode = j.opcode ↔ i = j := by
  constructor
  · intro h
    have hdecode := i.decode?_opcode
    rw [h, j.decode?_opcode] at hdecode
    exact (Option.some.inj hdecode).symm
  · rintro rfl
    rfl

def mnemonic : Instruction → Mnemonic
  | nop => .nop
  | clearScreen => .cls
  | returnFromCall => .ret
  | jump _ | jumpOffset _ => .jp
  | call _ => .call
  | skipIfSame _ _ | skipIfByte _ _ => .se
  | loadDelay _ | loadKey _ | loadMemory _ | loadRegister _ _ | loadByte _ _ | loadIndex _ => .ld
  | storeDelay _ | storeSound _ | pointAtDigit _ | storeDecimal _ | storeMemory _ => .ld
  | addToIndex _ | addRegister _ _ | addByte _ _ => .add
  | pair .or _ _ => .or
  | pair .and _ _ => .and
  | pair .xor _ _ => .xor
  | pair .sub _ _ => .sub
  | pair .shr _ _ => .shr
  | pair .subn _ _ => .subn
  | pair .shl _ _ => .shl
  | skipIfOther _ _ => .sne
  | random _ _ => .rnd
  | draw _ _ _ => .drw
  | skipIfPressed _ => .skp
  | skipIfReleased _ => .sknp

end Instruction

namespace Grammar

variable {m m' : Mnemonic} {i i' : Instruction}

theorem Form.mnemonic_eq {operands : List Bytes} (hform : Form m operands i) : m = i.mnemonic := by
  cases hform <;> rfl

theorem Reads.unique {line : Bytes} (hreads : Reads line m i) (hreads' : Reads line m' i') : m = m' ∧ i = i' := by
  have hi : reading line = .ok i := reading_eq_ok_iff.2 ⟨m, hreads⟩
  have hi' : reading line = .ok i' := reading_eq_ok_iff.2 ⟨m', hreads'⟩
  obtain rfl : i = i' := Except.ok.inj (hi.symm.trans hi')
  obtain ⟨_, -, hform⟩ := hreads
  obtain ⟨_, -, hform'⟩ := hreads'
  exact ⟨hform.mnemonic_eq.trans hform'.mnemonic_eq.symm, rfl⟩

/-- Forms with one word are one form of one mnemonic with the same registers and numbers. -/
theorem Form.eq_of_opcode_eq {operands operands' : List Bytes} (hform : Form m operands i)
    (hform' : Form m' operands' i') (hop : i.opcode = i'.opcode) : m = m' ∧ i = i' := by
  obtain rfl := Instruction.opcode_inj.1 hop
  exact ⟨hform.mnemonic_eq.trans hform'.mnemonic_eq.symm, rfl⟩

end Grammar

open Grammar

/-- Encoding is unambiguous: a line has at most one reading, two lines have one word exactly if they have
one reading, and no two forms share a word. -/
theorem encode_unambiguous :
    (∀ line m m' i i', Reads line m i → Reads line m' i' → m = m' ∧ i = i') ∧
      (∀ line line', (∃ op, encode line = .ok op ∧ encode line' = .ok op) ↔
        ∃ m i, Reads line m i ∧ Reads line' m i) ∧
      ∀ m m' operands operands' i i', Form m operands i → Form m' operands' i' → i.opcode = i'.opcode →
        m = m' ∧ i = i' := by
  refine ⟨fun _ _ _ _ _ => Reads.unique, fun line line' => ⟨?_, ?_⟩, fun _ _ _ _ _ _ => Form.eq_of_opcode_eq⟩
  · rintro ⟨op, hop, hop'⟩
    obtain ⟨m, i, hreads, rfl⟩ := encode_eq_ok_iff.1 hop
    obtain ⟨m', i', hreads', hi'⟩ := encode_eq_ok_iff.1 hop'
    obtain ⟨operands, hlayout, hform⟩ := hreads
    obtain ⟨operands', hlayout', hform'⟩ := hreads'
    obtain ⟨rfl, rfl⟩ := hform.eq_of_opcode_eq hform' hi'.symm
    exact ⟨m, i, ⟨operands, hlayout, hform⟩, operands', hlayout', hform'⟩
  · rintro ⟨m, i, hreads, hreads'⟩
    exact ⟨i.opcode, encode_eq_ok_iff.2 ⟨m, i, hreads, rfl⟩, encode_eq_ok_iff.2 ⟨m, i, hreads', rfl⟩⟩

/-- Leading zeros, the case of a digit, a comma and a word behind the form leave the one reading as it is. -/
theorem encode_unambiguous_spellings :
    ∃ m i, Reads (text "ld V1 a") m i ∧ Reads (text "ld V1, 000A x") m i ∧
      ∀ m' i', Reads (text "ld V1 a") m' i' → m' = m ∧ i' = i := by
  obtain ⟨m, i, hreads, hreads'⟩ := (encode_unambiguous.2.1 (text "ld V1 a") (text "ld V1, 000A x")).1
    ⟨⟨0x61, 0x0A⟩, rfl, rfl⟩
  exact ⟨m, i, hreads, hreads', fun _ _ hother => encode_unambiguous.1 _ _ _ _ _ hother hreads⟩

end Chip8
