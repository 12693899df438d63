import Chip8.Proofs.Assembly.Diagnosis
import Mathlib.Data.Finset.Basic

/-!
# Commas behind operands

A comma behind an operand is only punctuation: a line means the same, and is refused in the same words, with and
without it (`encode_punctuate`). Words with blanks in them are not left out. Such a word comes apart into several
operands, and a comma behind it is a comma behind the last of them.
-/

namespace Chip8

namespace Statement

/-- The words of a line give their operands one after another, whatever each comes apart into. -/
theorem ofLine?_join_eq {word first : Bytes} {more : List Bytes} (hword : Bytes.splitOn 0x20 word = first :: more)
    (words : List Bytes) : ofLine? (Bytes.join (text " ") (word :: words)) =
      some ⟨first, operandsOf more ++ words.flatMap fun w => operandsOf (Bytes.splitOn 0x20 w)⟩ := by
  have hsplit : Bytes.splitOn 0x20 (Bytes.join (text " ") (word :: words)) =
      first :: (more ++ words.flatMap (Bytes.splitOn 0x20)) := by
    show Bytes.splitOn 0x20 (Bytes.join [0x20] (word :: words)) = _
    rw [Bytes.splitOn_join_eq_flatMap (List.cons_ne_nil word words), List.flatMap_cons, hword, List.cons_append]
  have hoperands : operandsOf (words.flatMap (Bytes.splitOn 0x20)) =
      words.flatMap fun w => operandsOf (Bytes.splitOn 0x20 w) := List.map_flatMap
  rw [ofLine?, hsplit, ← hoperands, ← operandsOf_append]
  rfl

end Statement

theorem encode_eq_of_ofLine?_eq {line line' : Bytes} (h : Statement.ofLine? line = Statement.ofLine? line') :
    encode line = encode line' := by
  have hreading : reading line = reading line' := by
    apply Option.some.inj
    rw [some_reading, some_reading, reading?, reading?, h]
  rw [encode, encode, hreading]

/-- The words with a comma behind each that is chosen by its place. -/
def punctuate (chosen : Finset Nat) (words : List Bytes) : List Bytes :=
  words.mapIdx fun i word => if i ∈ chosen then word ++ text "," else word

theorem operandsOf_splitOn_append_comma {word : Bytes} (h : word.getLast? ≠ some 0x2C) :
    operandsOf (Bytes.splitOn 0x20 (word ++ text ",")) = operandsOf (Bytes.splitOn 0x20 word) :=
  Bytes.map_dropFinal_splitOn_append (by decide) h

theorem flatMap_punctuate {chosen : Finset Nat} {words : List Bytes}
    (h : ∀ i ∈ chosen, ∀ word, words[i]? = some word → word.getLast? ≠ some 0x2C) :
    ((punctuate chosen words).flatMap fun w => operandsOf (Bytes.splitOn 0x20 w)) =
      words.flatMap fun w => operandsOf (Bytes.splitOn 0x20 w) := by
  rw [List.flatMap_def, List.flatMap_def]
  apply congrArg List.flatten
  apply List.ext_getElem?
  intro i
  rw [punctuate, List.getElem?_map, List.getElem?_map, List.getElem?_mapIdx]
  cases hword : words[i]? with
  | none => rfl
  | some word =>
    simp only [Option.map_some]
    split
    · next hi => rw [operandsOf_splitOn_append_comma (h i hi word hword)]
    · rfl

/-- Commas are only punctuation: with a comma behind any operands that end in none, a line gives the same opcode,
or an error of the same kind, token and message. -/
theorem encode_punctuate (mnemonic : Bytes) (operands : List Bytes) (chosen : Finset Nat)
    (hchosen : ∀ i ∈ chosen, ∀ word, operands[i]? = some word → word.getLast? ≠ some 0x2C) :
    encode (Bytes.join (text " ") (mnemonic :: punctuate chosen operands)) =
      encode (Bytes.join (text " ") (mnemonic :: operands)) := by
  obtain ⟨first, more, hsplit⟩ := List.exists_cons_of_ne_nil (Bytes.splitOn_ne_nil 0x20 mnemonic)
  apply encode_eq_of_ofLine?_eq
  rw [Statement.ofLine?_join_eq hsplit, Statement.ofLine?_join_eq hsplit, flatMap_punctuate hchosen]

/-- A sprite drawn with a comma that stands already, and with one more on either side of it. -/
theorem encode_punctuate_draw :
    (∀ i ∈ ({0, 2} : Finset Nat), ∀ word, [text "V1", text "V2,", text "5"][i]? = some word →
      word.getLast? ≠ some 0x2C) ∧
      encode (text "drw V1, V2, 5,") = encode (text "drw V1 V2, 5") ∧
      encode (text "drw V1 V2, 5") = .ok ⟨0xD1, 0x25⟩ := by
  have hchosen : ∀ i ∈ ({0, 2} : Finset Nat), ∀ word, [text "V1", text "V2,", text "5"][i]? = some word →
      word.getLast? ≠ some 0x2C := by
    intro i hi word hword
    obtain rfl | rfl : i = 0 ∨ i = 2 := by simpa using hi
    · cases hword
      decide
    · cases hword
      decide
  have hwith : Bytes.join (text " ") (text "drw" :: punctuate {0, 2} [text "V1", text "V2,", text "5"]) =
      text "drw V1, V2, 5," := by decide
  have hwithout : Bytes.join (text " ") [text "drw", text "V1", text "V2,", text "5"] = text "drw V1 V2, 5" := by decide
  have hsame := encode_punctuate (text "drw") [text "V1", text "V2,", text "5"] {0, 2} hchosen
  rw [hwith, hwithout] at hsame
  exact ⟨hchosen, hsame, rfl⟩

end Chip8
