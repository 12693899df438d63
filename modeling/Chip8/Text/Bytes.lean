/-!
Text as the toolchain sees it: a list of bytes. Source lines, file names and messages come from
outside and need not be valid UTF-8, so nothing here assumes that they are; a string of this
library becomes text through its UTF-8 bytes.

The operations are the few that statements, source files and paths are taken apart with. Splitting
at a separator keeps empty pieces, and joining the pieces again gives the text back.
-/

namespace Chip8

/-- A text or an image: bytes in order. -/
abbrev Bytes := List UInt8

/-- The UTF-8 bytes of a string. -/
def text (s : String) : Bytes := s.toByteArray.data.toList

namespace Bytes

/-- The pieces of a text between the occurrences of `separator`, empty pieces included. -/
def splitOn (separator : UInt8) : Bytes → List Bytes
  | [] => [[]]
  | b :: rest =>
    if b = separator then [] :: splitOn separator rest
    else
      match splitOn separator rest with
      | [] => [[b]]
      | piece :: pieces => (b :: piece) :: pieces

/-- The pieces with `separator` between each two of them. -/
def join (separator : Bytes) : List Bytes → Bytes
  | [] => []
  | [piece] => piece
  | piece :: pieces => piece ++ separator ++ join separator pieces

/-- The text without its last byte if that byte is `b`. -/
def dropFinal (b : UInt8) (t : Bytes) : Bytes :=
  if t.getLast? = some b then t.dropLast else t

/-- The text without `ending`, if it ends so. -/
def dropEnding (ending t : Bytes) : Bytes :=
  if ending.isSuffixOf t then t.take (t.length - ending.length) else t

/-- The bytes cut into pieces of `size`, of which the last may be shorter; at most `fuel` pieces. -/
def chunksWithin (size : Nat) : Nat → Bytes → List Bytes
  | 0, _ => []
  | fuel + 1, t => if t.isEmpty then [] else t.take size :: chunksWithin size fuel (t.drop size)

/-- The bytes cut into pieces of a positive `size`, of which the last may be shorter. -/
def chunks (size : Nat) (t : Bytes) : List Bytes := chunksWithin size t.length t

/-- The text filled up to `width` bytes with `fill` on its left. -/
def padLeft (width : Nat) (fill : UInt8) (t : Bytes) : Bytes :=
  List.replicate (width - t.length) fill ++ t

theorem splitOn_ne_nil (separator : UInt8) (t : Bytes) : splitOn separator t ≠ [] := by
  cases t with
  | nil => simp [splitOn]
  | cons b rest =>
    simp only [splitOn]
    split
    · simp
    · split <;> simp

@[simp] theorem join_cons_cons (separator piece next : Bytes) (pieces : List Bytes) :
    join separator (piece :: next :: pieces) = piece ++ separator ++ join separator (next :: pieces) :=
  rfl

theorem join_cons (separator piece : Bytes) {pieces : List Bytes} (h : pieces ≠ []) :
    join separator (piece :: pieces) = piece ++ separator ++ join separator pieces := by
  cases pieces with
  | nil => exact absurd rfl h
  | cons next rest => rfl

theorem join_splitOn (separator : UInt8) (t : Bytes) : join [separator] (splitOn separator t) = t := by
  induction t with
  | nil => rfl
  | cons b rest ih =>
    simp only [splitOn]
    split
    · next h => simp [join_cons _ _ (splitOn_ne_nil separator rest), ih, h]
    · split
      · next h => exact absurd h (splitOn_ne_nil separator rest)
      · next piece pieces h =>
        rw [h] at ih
        cases pieces with
        | nil => simpa [join] using ih
        | cons next more => simpa using ih

theorem not_mem_of_mem_splitOn (separator : UInt8) (t : Bytes) :
    ∀ piece ∈ splitOn separator t, separator ∉ piece := by
  induction t with
  | nil => simp [splitOn]
  | cons b rest ih =>
    simp only [splitOn]
    split
    · intro piece h
      rcases List.mem_cons.1 h with rfl | h
      · simp
      · exact ih piece h
    · next hb =>
      split
      · next h => exact absurd h (splitOn_ne_nil separator rest)
      · next first pieces h =>
        rw [h] at ih
        intro piece hp
        rcases List.mem_cons.1 hp with rfl | hp
        · intro hm
          rcases List.mem_cons.1 hm with hm | hm
          · exact hb hm.symm
          · exact ih first (by simp) hm
        · exact ih piece (by simp [hp])

end Bytes

end Chip8
