import Chip8.Text.Bytes

/-!
# The pieces of a text

Cutting a text into pieces of one size, seen by the number of the piece: piece `k` starts at `k * size`,
there are as many pieces as have a byte, and put together they are the text again. What is cut by a
recursion elsewhere is reached from here on only through these three facts.
-/

namespace Chip8.Bytes

def chunkCount (size length : Nat) : Nat := (length + size - 1) / size

def chunk (size : Nat) (t : Bytes) (k : Nat) : Bytes := (t.drop (k * size)).take size

variable {size : Nat} (hsize : 0 < size) (t : Bytes)

include hsize

theorem lt_chunkCount_iff {k length : Nat} : k < chunkCount size length ↔ k * size < length := by
  rw [chunkCount, ← Nat.succ_le_iff, Nat.le_div_iff_mul_le hsize, Nat.succ_mul]
  omega

theorem chunkCount_zero : chunkCount size 0 = 0 := by
  rw [chunkCount, Nat.div_eq_of_lt (by omega)]

theorem chunkCount_eq_succ (length : Nat) (hlength : 0 < length) :
    chunkCount size length = chunkCount size (length - size) + 1 := by
  rw [chunkCount, chunkCount, ← Nat.add_div_right _ hsize]
  by_cases hle : size ≤ length
  · rw [show length - size + size - 1 + size = length + size - 1 by omega]
  · rw [show length - size + size - 1 + size = size - 1 + size by omega, Nat.add_div_right _ hsize,
      show length + size - 1 = length - 1 + size by omega, Nat.add_div_right _ hsize,
      Nat.div_eq_of_lt (by omega), Nat.div_eq_of_lt (by omega)]

theorem chunksWithin_eq_map {fuel : Nat} (hfuel : t.length ≤ fuel) :
    chunksWithin size fuel t = (List.range (chunkCount size t.length)).map (chunk size t) := by
  induction fuel generalizing t with
  | zero =>
    rw [List.eq_nil_of_length_eq_zero (Nat.le_zero.1 hfuel), List.length_nil, chunkCount_zero hsize]
    rfl
  | succ fuel ih =>
    cases t with
    | nil => rw [List.length_nil, chunkCount_zero hsize]; rfl
    | cons b rest =>
      have hdrop : ((b :: rest).drop size).length ≤ fuel := by
        rw [List.length_drop]
        simp only [List.length_cons] at hfuel ⊢
        omega
      have hcount := chunkCount_eq_succ hsize (b :: rest).length (by simp)
      rw [chunksWithin, List.isEmpty_cons, if_neg Bool.false_ne_true, ih _ hdrop, List.length_drop, hcount,
        List.range_succ_eq_map, List.map_cons, List.map_map]
      congr 1
      · rw [chunk, Nat.zero_mul, List.drop_zero]
      · refine List.map_congr_left fun k _ => ?_
        rw [Function.comp_apply, chunk, chunk, List.drop_drop, Nat.succ_mul, Nat.add_comm]

theorem chunks_eq_map : chunks size t = (List.range (chunkCount size t.length)).map (chunk size t) :=
  chunksWithin_eq_map hsize t (Nat.le_refl _)

omit hsize in
theorem take_append_chunk (k : Nat) : t.take (k * size) ++ chunk size t k = t.take ((k + 1) * size) := by
  rw [chunk, Nat.succ_mul, List.take_add]

omit hsize in
theorem flatten_chunk (n : Nat) : ((List.range n).map (chunk size t)).flatten = t.take (n * size) := by
  induction n with
  | zero => simp
  | succ n ih => rw [List.range_succ, List.map_append, List.flatten_append, ih, List.map_singleton,
      List.flatten_singleton, take_append_chunk]

theorem le_chunkCount_mul (length : Nat) : length ≤ chunkCount size length * size := by
  refine Nat.le_of_not_lt fun h => ?_
  exact Nat.lt_irrefl _ ((lt_chunkCount_iff hsize).2 h)

theorem flatten_chunks : ((List.range (chunkCount size t.length)).map (chunk size t)).flatten = t := by
  rw [flatten_chunk, List.take_of_length_le (le_chunkCount_mul hsize _)]

theorem length_chunk {k : Nat} (hk : k < chunkCount size t.length) :
    0 < (chunk size t k).length ∧ (chunk size t k).length ≤ size := by
  rw [lt_chunkCount_iff hsize] at hk
  rw [chunk, List.length_take, List.length_drop]
  omega

theorem length_chunk_eq {k : Nat} (hk : k + 1 < chunkCount size t.length) : (chunk size t k).length = size := by
  rw [lt_chunkCount_iff hsize, Nat.succ_mul] at hk
  rw [chunk, List.length_take, List.length_drop]
  omega

end Chip8.Bytes
