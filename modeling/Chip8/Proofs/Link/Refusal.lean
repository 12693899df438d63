import Chip8.Proofs.Link.Plan

/-!
# Refused uploads

An upload is refused for what can be seen of its image and its options, and then the link is not touched
(`calls_eq_nil_iff`). Any other upload synchronizes first. The plan behind the synchronization begins with
another command, so the attempts are the synchronizing commands at the beginning of what is written
(`syncAttempts_bounds`), although a page may hold the byte of that command as well.
-/

namespace Chip8.Session

variable {opts : SessionOptions} {image : Bytes} {calls : List LinkCall} {r : Except Crash Outcome}

theorem refusal?_eq_none_iff : refusal? opts image = none ↔ Accepted opts image := by
  constructor
  · exact accepted_of_refusal?
  · intro h
    have hfits := h.fits
    have hone := h.one_le
    have hmax := h.le_max
    have hempty : ¬image.isEmpty := by simpa using h.nonempty
    rw [refusal?, if_neg hempty, if_neg (by omega), if_neg (by omega)]

def syncAttempts (calls : List LinkCall) : Nat := ((writes calls).takeWhile (· = [Protocol.sync])).length

theorem length_takeWhile_replicate_append (n : Nat) {later : List Bytes} (hlater : later.head? ≠ some [Protocol.sync]) :
    ((List.replicate n [Protocol.sync] ++ later).takeWhile (· = [Protocol.sync])).length = n := by
  have hend : later.takeWhile (· = [Protocol.sync]) = [] := by
    cases later with
    | nil => rfl
    | cons first later =>
      have hfirst : first ≠ [Protocol.sync] := fun h => hlater (by rw [h]; rfl)
      rw [List.takeWhile_cons_of_neg (by simpa using hfirst)]
  rw [List.takeWhile_append_of_pos (by simp), hend, List.append_nil, List.length_replicate]

theorem Carries.head?_writes {delay : Int} {x : Exchange} {xs : List Exchange} {o : Outcome}
    (h : Carries delay (x :: xs) calls o) : (writes calls).head? = some x.bytes := by
  cases h with
  | whole _ => rw [writes_append, Exchange.writes_calls]; rfl
  | broken hbreaks => rw [hbreaks.writes_eq]; rfl

/-- A run that is not refused tries at least once to synchronize, and not more often than it may. -/
theorem syncAttempts_bounds (haccepted : refusal? opts image = none) (htalks : Talks (upload opts image) calls r) :
    1 ≤ syncAttempts calls ∧ syncAttempts calls ≤ syncLimit opts := by
  have hlimit : 1 ≤ syncLimit opts := by
    unfold syncLimit
    omega
  obtain ⟨attempts, hattempts, ⟨hlength, rfl, -⟩ | ⟨hlength, late, rest, o, -, rfl, -, hcarries⟩⟩ :=
    talks_upload haccepted htalks
  · have hnothing : ([] : List Bytes).head? ≠ some [Protocol.sync] := by simp
    have hcount := length_takeWhile_replicate_append attempts.length hnothing
    rw [List.append_nil, ← writes_attempts hattempts] at hcount
    rw [syncAttempts, hcount]
    omega
  · have hwrites : writes (attempts.flatten ++ (Exchange.sync.calls opts.responseDelay ++
        late.map (.received opts.responseDelay)) ++ rest) =
        List.replicate (attempts.length + 1) [Protocol.sync] ++ writes rest := by
      have hbytes : Exchange.sync.bytes = [Protocol.sync] := rfl
      simp [writes_attempts hattempts, List.replicate_succ', hbytes]
    have hhead : (writes rest).head? ≠ some [Protocol.sync] := by
      rw [hcarries.head?_writes]
      decide
    have hcount := length_takeWhile_replicate_append (attempts.length + 1) hhead
    rw [syncAttempts, hwrites, hcount]
    omega

theorem calls_eq_nil_iff (htalks : Talks (upload opts image) calls r) : calls = [] ↔ ¬Accepted opts image := by
  rw [← refusal?_eq_none_iff]
  constructor
  · rintro rfl haccepted
    have hone := (syncAttempts_bounds haccepted htalks).1
    exact absurd hone (by decide)
  · intro hrefused
    obtain ⟨e, he⟩ := Option.ne_none_iff_exists'.1 hrefused
    simp only [upload, he] at htalks
    exact (talks_done.1 htalks).1

theorem exists_error_of_refused (hrefused : ¬Accepted opts image) (htalks : Talks (upload opts image) calls r) :
    ∃ e, r = .ok (.error e) := by
  rw [← refusal?_eq_none_iff] at hrefused
  obtain ⟨e, he⟩ := Option.ne_none_iff_exists'.1 hrefused
  simp only [upload, he] at htalks
  exact ⟨e, (talks_done.1 htalks).2⟩

theorem not_accepted_iff : ¬Accepted opts image ↔ image = [] ∨ opts.loadBase.toNat + image.length > 0x1000 ∨
    opts.chunkSize < 1 ∨ opts.chunkSize > 255 := by
  constructor
  · intro h
    by_cases hempty : image = []
    · exact .inl hempty
    · refine .inr (Classical.byContradiction fun hnone => h ⟨hempty, ?_, ?_, ?_⟩)
      · unfold memoryEnd
        omega
      · omega
      · unfold Protocol.maxPage
        omega
  · rintro h ⟨hnonempty, hfits, hone, hmax⟩
    unfold memoryEnd at hfits
    unfold Protocol.maxPage at hmax
    rcases h with hempty | h
    · exact hnonempty hempty
    · omega

end Chip8.Session
