import Chip8.Proofs.Assembly.LineByLine
import Chip8.Proofs.Assembly.Statements
import Mathlib.Data.Set.List

/-!
# The images of programs

Which words an image can consist of is listed digit by digit, as the machine's manual lists them, with
no regard to statements or instructions. The list turns out to be the words of the instructions
(`listed_iff`), and since every instruction can be written on a line of its own, the images are exactly
the non-empty rows of listed words.
-/

namespace Chip8

namespace Opcode

/-- The words of the instruction set, by their four digits. -/
inductive Digits : Fin 16 → Fin 16 → Fin 16 → Fin 16 → Prop
  | w0000 : Digits 0x0 0x0 0x0 0x0
  | w00E0 : Digits 0x0 0x0 0xE 0x0
  | w00EE : Digits 0x0 0x0 0xE 0xE
  | w1nnn (n₁ n₂ n₃ : Fin 16) : Digits 0x1 n₁ n₂ n₃
  | w2nnn (n₁ n₂ n₃ : Fin 16) : Digits 0x2 n₁ n₂ n₃
  | w3xkk (x k₁ k₂ : Fin 16) : Digits 0x3 x k₁ k₂
  | w5xy0 (x y : Fin 16) : Digits 0x5 x y 0x0
  | w6xkk (x k₁ k₂ : Fin 16) : Digits 0x6 x k₁ k₂
  | w7xkk (x k₁ k₂ : Fin 16) : Digits 0x7 x k₁ k₂
  | w8xy0to7 (x y n : Fin 16) (hn : n ≤ 7) : Digits 0x8 x y n
  | w8xyE (x y : Fin 16) : Digits 0x8 x y 0xE
  | w9xy0 (x y : Fin 16) : Digits 0x9 x y 0x0
  | wAnnn (n₁ n₂ n₃ : Fin 16) : Digits 0xA n₁ n₂ n₃
  | wBnnn (n₁ n₂ n₃ : Fin 16) : Digits 0xB n₁ n₂ n₃
  | wCxkk (x k₁ k₂ : Fin 16) : Digits 0xC x k₁ k₂
  | wDxyn (x y n : Fin 16) : Digits 0xD x y n
  | wEx9E (x : Fin 16) : Digits 0xE x 0x9 0xE
  | wExA1 (x : Fin 16) : Digits 0xE x 0xA 0x1
  | wFx07 (x : Fin 16) : Digits 0xF x 0x0 0x7
  | wFx0A (x : Fin 16) : Digits 0xF x 0x0 0xA
  | wFx15 (x : Fin 16) : Digits 0xF x 0x1 0x5
  | wFx18 (x : Fin 16) : Digits 0xF x 0x1 0x8
  | wFx1E (x : Fin 16) : Digits 0xF x 0x1 0xE
  | wFx29 (x : Fin 16) : Digits 0xF x 0x2 0x9
  | wFx33 (x : Fin 16) : Digits 0xF x 0x3 0x3
  | wFx55 (x : Fin 16) : Digits 0xF x 0x5 0x5
  | wFx65 (x : Fin 16) : Digits 0xF x 0x6 0x5

def Listed (op : Opcode) : Prop :=
  Digits (highNibble op.high) (lowNibble op.high) (highNibble op.low) (lowNibble op.low)

end Opcode

namespace Instruction

open Opcode

theorem listed_paired {lead x y last : Fin 16} : (paired lead x y last).Listed ↔ Digits lead x y last := by
  simp [Listed, paired]

theorem listed_immediate {lead x : Fin 16} {k : UInt8} :
    (immediate lead x k).Listed ↔ Digits lead x (highNibble k) (lowNibble k) := by
  simp [Listed, immediate]

theorem listed_addressed {lead : Fin 16} {a : Address} :
    (addressed lead a).Listed ↔ Digits lead a.page (highNibble a.offset) (lowNibble a.offset) :=
  listed_immediate

theorem listed_opcode (i : Instruction) : i.opcode.Listed := by
  cases i with
  | nop => exact .w0000
  | clearScreen => exact .w00E0
  | returnFromCall => exact .w00EE
  | jump a => exact listed_addressed.2 (.w1nnn _ _ _)
  | call a => exact listed_addressed.2 (.w2nnn _ _ _)
  | skipIfByte x k => exact listed_immediate.2 (.w3xkk x _ _)
  | skipIfSame x y => exact listed_paired.2 (.w5xy0 x y)
  | loadByte x k => exact listed_immediate.2 (.w6xkk x _ _)
  | addByte x k => exact listed_immediate.2 (.w7xkk x _ _)
  | loadRegister x y => exact listed_paired.2 (.w8xy0to7 x y _ (by decide))
  | addRegister x y => exact listed_paired.2 (.w8xy0to7 x y _ (by decide))
  | pair op x y =>
    cases op with
    | shl => exact listed_paired.2 (.w8xyE x y)
    | _ => exact listed_paired.2 (.w8xy0to7 x y _ (by decide))
  | skipIfOther x y => exact listed_paired.2 (.w9xy0 x y)
  | loadIndex a => exact listed_addressed.2 (.wAnnn _ _ _)
  | jumpOffset a => exact listed_addressed.2 (.wBnnn _ _ _)
  | random x k => exact listed_immediate.2 (.wCxkk x _ _)
  | draw x y n => exact listed_paired.2 (.wDxyn x y n)
  | skipIfPressed x => exact listed_immediate.2 (.wEx9E x)
  | skipIfReleased x => exact listed_immediate.2 (.wExA1 x)
  | loadDelay x => exact listed_immediate.2 (.wFx07 x)
  | loadKey x => exact listed_immediate.2 (.wFx0A x)
  | storeDelay x => exact listed_immediate.2 (.wFx15 x)
  | storeSound x => exact listed_immediate.2 (.wFx18 x)
  | addToIndex x => exact listed_immediate.2 (.wFx1E x)
  | pointAtDigit x => exact listed_immediate.2 (.wFx29 x)
  | storeDecimal x => exact listed_immediate.2 (.wFx33 x)
  | storeMemory x => exact listed_immediate.2 (.wFx55 x)
  | loadMemory x => exact listed_immediate.2 (.wFx65 x)

theorem exists_opcode_eq_8xy0to7 (x y : Register) {n : Fin 16} (hn : n ≤ 7) :
    ∃ i : Instruction, i.opcode = paired 0x8 x y n := by
  have hcases : n = 0 ∨ n = 1 ∨ n = 2 ∨ n = 3 ∨ n = 4 ∨ n = 5 ∨ n = 6 ∨ n = 7 := by
    revert n
    decide
  rcases hcases with rfl | rfl | rfl | rfl | rfl | rfl | rfl | rfl
  · exact ⟨.loadRegister x y, rfl⟩
  · exact ⟨.pair .or x y, rfl⟩
  · exact ⟨.pair .and x y, rfl⟩
  · exact ⟨.pair .xor x y, rfl⟩
  · exact ⟨.addRegister x y, rfl⟩
  · exact ⟨.pair .sub x y, rfl⟩
  · exact ⟨.pair .shr x y, rfl⟩
  · exact ⟨.pair .subn x y, rfl⟩

theorem exists_opcode_eq_of_digits {a b c d : Fin 16} (h : Digits a b c d) :
    ∃ i : Instruction, i.opcode = paired a b c d := by
  cases h with
  | w0000 => exact ⟨.nop, rfl⟩
  | w00E0 => exact ⟨.clearScreen, rfl⟩
  | w00EE => exact ⟨.returnFromCall, rfl⟩
  | w1nnn => exact ⟨.jump ⟨b, packNibbles c d⟩, rfl⟩
  | w2nnn => exact ⟨.call ⟨b, packNibbles c d⟩, rfl⟩
  | w3xkk => exact ⟨.skipIfByte b (packNibbles c d), rfl⟩
  | w5xy0 => exact ⟨.skipIfSame b c, rfl⟩
  | w6xkk => exact ⟨.loadByte b (packNibbles c d), rfl⟩
  | w7xkk => exact ⟨.addByte b (packNibbles c d), rfl⟩
  | w8xy0to7 _ _ _ hn => exact exists_opcode_eq_8xy0to7 b c hn
  | w8xyE => exact ⟨.pair .shl b c, rfl⟩
  | w9xy0 => exact ⟨.skipIfOther b c, rfl⟩
  | wAnnn => exact ⟨.loadIndex ⟨b, packNibbles c d⟩, rfl⟩
  | wBnnn => exact ⟨.jumpOffset ⟨b, packNibbles c d⟩, rfl⟩
  | wCxkk => exact ⟨.random b (packNibbles c d), rfl⟩
  | wDxyn => exact ⟨.draw b c d, rfl⟩
  | wEx9E => exact ⟨.skipIfPressed b, rfl⟩
  | wExA1 => exact ⟨.skipIfReleased b, rfl⟩
  | wFx07 => exact ⟨.loadDelay b, rfl⟩
  | wFx0A => exact ⟨.loadKey b, rfl⟩
  | wFx15 => exact ⟨.storeDelay b, rfl⟩
  | wFx18 => exact ⟨.storeSound b, rfl⟩
  | wFx1E => exact ⟨.addToIndex b, rfl⟩
  | wFx29 => exact ⟨.pointAtDigit b, rfl⟩
  | wFx33 => exact ⟨.storeDecimal b, rfl⟩
  | wFx55 => exact ⟨.storeMemory b, rfl⟩
  | wFx65 => exact ⟨.loadMemory b, rfl⟩

theorem listed_iff {op : Opcode} : op.Listed ↔ ∃ i : Instruction, i.opcode = op := by
  constructor
  · intro h
    obtain ⟨i, hi⟩ := exists_opcode_eq_of_digits h
    refine ⟨i, hi.trans ?_⟩
    rw [paired, packNibbles_nibbles, packNibbles_nibbles]
  · rintro ⟨i, rfl⟩
    exact listed_opcode i

/-- A source text with one statement for each instruction. -/
def program (is : List Instruction) : Bytes := (is.map statement).flatMap fun line => line ++ [0x0A]

theorem lines_program (is : List Instruction) : (Source.ofText (program is)).lines = is.map statement := by
  rw [program, Source.ofText_terminated]
  intro line hline
  obtain ⟨i, -, rfl⟩ := List.mem_map.1 hline
  exact plain_statement i

theorem encodeTo_statements (is : List Instruction) : EncodeTo (is.map statement) (is.map opcode) := by
  induction is with
  | nil => exact .nil
  | cons i is ih => exact .cons (encode_statement i) ih

end Instruction

open Instruction

theorem EncodeTo.listed {lines : List Bytes} {ops : List Opcode} (hops : EncodeTo lines ops) :
    ∀ op ∈ ops, op.Listed := by
  induction hops with
  | nil => simp
  | @cons line op lines ops hline _ ih =>
    obtain ⟨m, i, -, hi⟩ := encode_eq_ok_iff.1 hline
    exact List.forall_mem_cons.2 ⟨listed_iff.2 ⟨i, hi⟩, ih⟩

/-- The images of programs are exactly the non-empty rows of words of the instruction set. -/
theorem exists_source_iff_words (image : Bytes) :
    (∃ source, build (Source.ofText source).lines = .ok image) ↔
      ∃ ops : List Opcode, ops ≠ [] ∧ (∀ op ∈ ops, op.Listed) ∧ image = ops.flatMap Opcode.bytes := by
  constructor
  · rintro ⟨source, hbuild⟩
    obtain ⟨hlines, ops, hops, rfl⟩ := build_eq_ok_iff.1 hbuild
    refine ⟨ops, ?_, hops.listed, rfl⟩
    rintro rfl
    exact hlines (List.forall₂_nil_right_iff.1 hops)
  · rintro ⟨ops, hne, hlisted, rfl⟩
    have hrange : ops ∈ Set.range (List.map opcode) := by
      rw [Set.range_list_map]
      exact fun op hop => listed_iff.1 (hlisted op hop)
    obtain ⟨is, rfl⟩ := hrange
    refine ⟨program is, build_eq_ok_iff.2 ?_⟩
    rw [lines_program]
    exact ⟨by simpa using hne, is.map opcode, encodeTo_statements is, rfl⟩

end Chip8
