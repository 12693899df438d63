import Chip8.Proofs.Assembly.SourceLines
import Chip8.Proofs.Assembly.Unambiguity

/-!
# Every instruction can be written down

Each instruction has a statement: its mnemonic and its operands with one blank between each two,
registers with an upper-case digit, numbers with lower-case ones, a byte always with two of them. The
statement is in the grammar with just that instruction (`reads_statement`), and it holds nothing that
ends a line.
-/

namespace Chip8

open Grammar Numeral

@[simp] theorem packNibbles_nibbles (b : UInt8) : packNibbles (highNibble b) (lowNibble b) = b := by
  apply UInt8.toNat_inj.1
  have hb := b.toNat_lt
  rw [toNat_packNibbles, highNibble, lowNibble, val_lastDigit, val_lastDigit]
  omega

namespace Operand

def registerWord (x : Register) : Bytes := text "V" ++ [upperDigit x.val]

def nibbleWord (n : Fin 16) : Bytes := [lowerDigit n.val]

def byteWord (k : UInt8) : Bytes := [lowerDigit (highNibble k).val, lowerDigit (lowNibble k).val]

def addressWord (a : Address) : Bytes := lowerDigit a.page.val :: byteWord a.offset

theorem lowerDigit_lowerDigit (d : Fin 16) : LowerDigit (lowerDigit d.val) d.val := by
  revert d
  decide

theorem hexDigit_lowerDigit (d : Fin 16) : HexDigit (lowerDigit d.val) d.val := .inl (lowerDigit_lowerDigit d)

theorem hexDigit_upperDigit (d : Fin 16) : HexDigit (upperDigit d.val) d.val := by
  revert d
  decide

theorem registerText_registerWord (x : Register) : RegisterText (registerWord x) x :=
  ⟨_, rfl, hexDigit_upperDigit x⟩

theorem nibbleText_nibbleWord (n : Fin 16) : NibbleText (nibbleWord n) n := ⟨_, rfl, hexDigit_lowerDigit n⟩

theorem byteText_byteWord (k : UInt8) : ByteText (byteWord k) k := by
  have hnumber := (HexNumber.digit (hexDigit_lowerDigit (highNibble k))).snoc (hexDigit_lowerDigit (lowNibble k))
  have hvalue : (highNibble k).val * 16 + (lowNibble k).val = k.toNat := by
    rw [← toNat_packNibbles, packNibbles_nibbles]
  rw [hvalue] at hnumber
  exact hnumber

theorem lowerByteText_byteWord (k : UInt8) : LowerByteText (byteWord k) k :=
  ⟨byteText_byteWord k, _, _, _, rfl, lowerDigit_lowerDigit (highNibble k)⟩

theorem addressText_addressWord (a : Address) : AddressText (addressWord a) a :=
  ⟨_, _, rfl, lowerDigit_lowerDigit a.page, byteText_byteWord a.offset⟩

/-- All characters of the word lie behind the comma, and with it behind the blank, the newline and the
carriage return. -/
def Lettered (word : Bytes) : Prop := ∀ b ∈ word, 0x2C < b

instance (word : Bytes) : Decidable (Lettered word) := List.decidableBAll (fun b => 0x2C < b) word

theorem Lettered.not_mem {word : Bytes} (h : Lettered word) {b : UInt8} (hb : b ≤ 0x2C) : b ∉ word := by
  intro hmem
  exact absurd (h b hmem) (UInt8.not_lt.2 hb)

theorem lettered_registerWord (x : Register) : Lettered (registerWord x) := by
  revert x
  decide

theorem lettered_nibbleWord (n : Fin 16) : Lettered (nibbleWord n) := by
  revert n
  decide

theorem lettered_append {s t : Bytes} (hs : Lettered s) (ht : Lettered t) : Lettered (s ++ t) := by
  intro b hb
  rcases List.mem_append.1 hb with hb | hb
  · exact hs b hb
  · exact ht b hb

theorem lettered_byteWord (k : UInt8) : Lettered (byteWord k) :=
  lettered_append (lettered_nibbleWord (highNibble k)) (lettered_nibbleWord (lowNibble k))

theorem lettered_addressWord (a : Address) : Lettered (addressWord a) :=
  lettered_append (lettered_nibbleWord a.page) (lettered_byteWord a.offset)

end Operand

open Operand

theorem Mnemonic.lettered_name (m : Mnemonic) : Lettered m.name := by cases m <;> decide

namespace Instruction

def operands : Instruction → List Bytes
  | nop | clearScreen | returnFromCall => []
  | jump a | call a => [addressWord a]
  | jumpOffset a => [text "V0", addressWord a]
  | skipIfByte x k | loadByte x k | addByte x k | random x k => [registerWord x, byteWord k]
  | skipIfSame x y | loadRegister x y | addRegister x y | pair _ x y | skipIfOther x y => [registerWord x, registerWord y]
  | draw x y n => [registerWord x, registerWord y, nibbleWord n]
  | skipIfPressed x | skipIfReleased x => [registerWord x]
  | loadDelay x => [registerWord x, text "DT"]
  | loadKey x => [registerWord x, text "K"]
  | loadMemory x => [registerWord x, text "[I]"]
  | loadIndex a => [text "I", addressWord a]
  | storeDelay x => [text "DT", registerWord x]
  | storeSound x => [text "ST", registerWord x]
  | pointAtDigit x => [text "F", registerWord x]
  | storeDecimal x => [text "B", registerWord x]
  | storeMemory x => [text "[I]", registerWord x]
  | addToIndex x => [text "I", registerWord x]

def statement (i : Instruction) : Bytes := Bytes.join (text " ") (i.mnemonic.name :: i.operands)

theorem form_operands (i : Instruction) : Form i.mnemonic i.operands i := by
  have hregister := registerText_registerWord
  have haddress := addressText_addressWord
  cases i with
  | nop => exact .nop
  | clearScreen => exact .cls
  | returnFromCall => exact .ret
  | jump a => exact .jump (haddress a)
  | jumpOffset a => exact .jumpOffset (haddress a)
  | call a => exact .call (haddress a)
  | skipIfSame x y => exact .skipIfSame (hregister x) (hregister y)
  | skipIfByte x k => exact .skipIfByte (hregister x) (lowerByteText_byteWord k)
  | loadDelay x => exact .loadDelay (hregister x)
  | loadKey x => exact .loadKey (hregister x)
  | loadMemory x => exact .loadMemory (hregister x)
  | loadRegister x y => exact .loadRegister (hregister x) (hregister y)
  | loadByte x k => exact .loadByte (hregister x) (lowerByteText_byteWord k)
  | loadIndex a => exact .loadIndex (haddress a)
  | storeDelay x => exact .storeDelay (hregister x)
  | storeSound x => exact .storeSound (hregister x)
  | pointAtDigit x => exact .pointAtDigit (hregister x)
  | storeDecimal x => exact .storeDecimal (hregister x)
  | storeMemory x => exact .storeMemory (hregister x)
  | addToIndex x => exact .addToIndex (hregister x)
  | addRegister x y => exact .addRegister (hregister x) (hregister y)
  | addByte x k => exact .addByte (hregister x) (byteText_byteWord k)
  | pair op x y => cases op <;> constructor <;> exact hregister _
  | skipIfOther x y => exact .skipIfOther (hregister x) (hregister y)
  | random x k => exact .random (hregister x) (byteText_byteWord k)
  | draw x y n => exact .draw (hregister x) (hregister y) (nibbleText_nibbleWord n)
  | skipIfPressed x => exact .skipIfPressed (hregister x)
  | skipIfReleased x => exact .skipIfReleased (hregister x)

theorem lettered_operands (i : Instruction) : ∀ word ∈ i.operands, Lettered word := by
  have hspecial : ∀ word ∈ ["V0", "DT", "ST", "K", "F", "B", "I", "[I]"], Lettered (text word) := by decide
  cases i <;> simp [operands, lettered_registerWord, lettered_byteWord, lettered_addressWord, lettered_nibbleWord] <;>
    exact hspecial _ (by decide)

theorem lettered_words (i : Instruction) : ∀ word ∈ i.mnemonic.name :: i.operands, Lettered word :=
  List.forall_mem_cons.2 ⟨i.mnemonic.lettered_name, lettered_operands i⟩

theorem layout_statement (i : Instruction) : Layout i.statement i.mnemonic.name i.operands := by
  refine ⟨i.operands, rfl, fun word hword => (lettered_words i word hword).not_mem (by decide), ?_⟩
  rw [forall₂_trimmed_iff]
  -- No operand ends in a comma, so none loses anything.
  have htrim : ∀ word ∈ i.operands, Bytes.dropFinal 0x2C word = word := by
    intro word hword
    have hcomma : 0x2C ∉ word := (lettered_operands i word hword).not_mem (by decide)
    exact if_neg fun hlast => hcomma (List.mem_of_getLast? hlast)
  rw [List.map_congr_left htrim, List.map_id']

theorem reads_statement (i : Instruction) : Reads i.statement i.mnemonic i :=
  ⟨i.operands, layout_statement i, form_operands i⟩

theorem encode_statement (i : Instruction) : encode i.statement = .ok i.opcode :=
  encode_eq_ok_iff.2 ⟨i.mnemonic, i, reads_statement i, rfl⟩

theorem plain_statement (i : Instruction) : Source.Plain i.statement := by
  have hfree : ∀ b : UInt8, b ≤ 0x2C → b ≠ 0x20 → b ∉ i.statement := by
    intro b hb hblank hmem
    obtain hseparator | ⟨word, hword, hmem⟩ := Bytes.mem_join hmem
    · rw [show text " " = [0x20] by decide] at hseparator
      exact hblank (List.mem_singleton.1 hseparator)
    · exact (lettered_words i word hword).not_mem hb hmem
  refine ⟨hfree 0x0A (by decide) (by decide), fun hlast => ?_⟩
  exact hfree 0x0D (by decide) (by decide) (List.mem_of_getLast? hlast)

end Instruction

end Chip8
