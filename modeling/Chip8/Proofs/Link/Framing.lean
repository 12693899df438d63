import Chip8.Link.Session

/-!
# Synchronizing recovers the framing

A link with bytes left over that nobody waits for is out of step: what comes next is not the acknowledgement of
the next command. Synchronizing brings it into step again. Each attempt reads one byte and adds one acknowledgement
at most, and the acknowledgements queue up behind whatever was left over. So once one of them is read there are no
more bytes in the queue than attempts that failed before, and that many are taken in. It does not matter which
attempts were refused and which went unanswered.
-/

namespace Chip8

open Program Session
open Protocol (ack sync)

/-- What becomes of a sending: nothing is delivered, or it is delivered and answered at once. -/
inductive Reaction where
  | refused (error : LinkError)
  | answered (answer : Bytes)

/-- Whether what was sent was refused, left unanswered or acknowledged once. -/
def Reaction.IsSimple (command : UInt8) : Reaction → Prop
  | refused _ => True
  | answered answer => answer = [] ∨ answer = [ack command]

/-- A link on which answers wait in a queue to be read. What becomes of a sending may hang on how many there
were before it. -/
structure QueuedLink where
  queue : Bytes
  react : Nat → Bytes → Reaction
  sent : List Bytes
  reads : Nat

namespace QueuedLink

/-- A reading takes the oldest byte, and is in vain exactly if there is none. -/
def handle : Program.Handler Link QueuedLink
  | .receive timeout, s =>
    match s.queue with
    | [] => (.ok (.error (.noResponse timeout)), { s with reads := s.reads + 1 })
    | b :: rest => (.ok (.ok b), { s with queue := rest, reads := s.reads + 1 })
  | .send bytes, s =>
    match s.react s.sent.length bytes with
    | .refused e => (.ok (.error e), { s with sent := s.sent ++ [bytes] })
    | .answered answer => (.ok (.ok ()), { s with queue := s.queue ++ answer, sent := s.sent ++ [bytes] })
  | .note _, s => (.ok (), s)
  | .pause _, s => (.ok (), s)

/-- The link after a reading that leaves `rest` in the queue. -/
def afterRead (s : QueuedLink) (rest : Bytes) : QueuedLink := { s with queue := rest, reads := s.reads + 1 }

/-- The link after a sending, with `queue` waiting then. -/
def afterSend (s : QueuedLink) (bytes queue : Bytes) : QueuedLink :=
  { s with queue := queue, sent := s.sent ++ [bytes] }

variable {opts : SessionOptions} {s : QueuedLink} {c b : UInt8} {arguments answer rest : Bytes} {e : LinkError}
  {expected timeout : Int}

theorem run_receive_of_nil (h : s.queue = []) :
    (Link.receive timeout).run handle s = (.ok (.error (.noResponse timeout)), s.afterRead []) := by
  simp [Link.receive, run, handle, afterRead, h]

theorem run_receive_of_cons (h : s.queue = b :: rest) :
    (Link.receive timeout).run handle s = (.ok (.ok b), s.afterRead rest) := by
  simp [Link.receive, run, handle, afterRead, h]

theorem run_send_of_refused {bytes : Bytes} (h : s.react s.sent.length bytes = .refused e) :
    (Link.send bytes).run handle s = (.ok (.error e), s.afterSend bytes s.queue) := by
  simp [Link.send, run, handle, afterSend, h]

theorem run_send_of_answered {bytes : Bytes} (h : s.react s.sent.length bytes = .answered answer) :
    (Link.send bytes).run handle s = (.ok (.ok ()), s.afterSend bytes (s.queue ++ answer)) := by
  simp [Link.send, run, handle, afterSend, h]

theorem run_debugNote (line : Bytes) : (debugNote opts line).run handle s = (.ok (), s) := by
  unfold debugNote
  split <;> rfl

theorem run_drain (count : Nat) : (drain opts count).run handle s =
    (.ok (), { s with queue := s.queue.drop count, reads := s.reads + count }) := by
  induction count generalizing s with
  | zero => rfl
  | succ count ih =>
    obtain ⟨_, hread⟩ : ∃ received, (Link.receive opts.responseDelay).run handle s =
        (.ok received, s.afterRead s.queue.tail) := by
      cases hqueue : s.queue with
      | nil => exact ⟨_, run_receive_of_nil hqueue⟩
      | cons b rest => exact ⟨_, run_receive_of_cons hqueue⟩
    have hreads : s.reads + 1 + count = s.reads + (count + 1) := by omega
    rw [drain, run_bind_of_ok hread, ih]
    simp only [afterRead, List.drop_tail, hreads]

section Commands

theorem run_awaitAck_of_nil (h : s.queue = []) :
    (awaitAck opts c).run handle s = (.ok (.error (.link (.noResponse opts.responseDelay))), s.afterRead []) := by
  rw [awaitAck, run_bind_of_ok (run_receive_of_nil h)]
  rfl

theorem run_awaitAck_of_ack (h : s.queue = ack c :: rest) :
    (awaitAck opts c).run handle s = (.ok (.ok ()), s.afterRead rest) := by
  rw [awaitAck, run_bind_of_ok (run_receive_of_cons h)]
  dsimp only
  rw [if_pos rfl]
  rfl

theorem run_awaitAck_of_ne (h : s.queue = b :: rest) (hb : b ≠ ack c) :
    (awaitAck opts c).run handle s = (.ok (.error (.unexpectedResponse c b)), s.afterRead rest) := by
  rw [awaitAck, run_bind_of_ok (run_receive_of_cons h)]
  dsimp only
  rw [if_neg hb]
  rfl

variable (hcomplete : isComplete (c :: arguments)) (hexpected : 0 ≤ expected ∧ expected ≤ maxExpected)
include hcomplete hexpected

theorem run_fixedCommand_of_refused (h : s.react s.sent.length (c :: arguments) = .refused e) :
    (fixedCommand opts (c :: arguments) expected).run handle s =
      (.ok ([], .error (.link e)), s.afterSend (c :: arguments) s.queue) := by
  have hnot : ¬(expected < 0 ∨ expected > maxExpected) := by omega
  rw [fixedCommand, if_neg (not_not_intro hcomplete), if_neg hnot, run_bind_of_ok (run_debugNote _),
    run_bind_of_ok (run_send_of_refused h)]
  rfl

variable {s' : QueuedLink} (h : s.react s.sent.length (c :: arguments) = .answered answer)
include h

theorem run_fixedCommand_of_awaitAck_error {e : SessionError}
    (hawait : (awaitAck opts c).run handle (s.afterSend (c :: arguments) (s.queue ++ answer)) =
      (.ok (.error e), s')) :
    (fixedCommand opts (c :: arguments) expected).run handle s = (.ok ([], .error e), s') := by
  have hnot : ¬(expected < 0 ∨ expected > maxExpected) := by omega
  rw [fixedCommand, if_neg (not_not_intro hcomplete), if_neg hnot, run_bind_of_ok (run_debugNote _),
    run_bind_of_ok (run_send_of_answered h)]
  dsimp only
  rw [run_bind_of_ok hawait]
  rfl

theorem run_fixedCommand_of_awaitAck_ok
    (hawait : (awaitAck opts c).run handle (s.afterSend (c :: arguments) (s.queue ++ answer)) =
      (.ok (.ok ()), s')) :
    (fixedCommand opts (c :: arguments) expected).run handle s =
      (readResponse opts expected.toNat []).run handle s' := by
  have hnot : ¬(expected < 0 ∨ expected > maxExpected) := by omega
  rw [fixedCommand, if_neg (not_not_intro hcomplete), if_neg hnot, run_bind_of_ok (run_debugNote _),
    run_bind_of_ok (run_send_of_answered h)]
  dsimp only
  rw [run_bind_of_ok hawait]

end Commands

/-- A link is in step if of whichever command it acknowledges next, the acknowledgement is the next byte read, and
all the rest of the answer is the response. -/
def InStep (opts : SessionOptions) (s : QueuedLink) : Prop :=
  ∀ c arguments expected response, isComplete (c :: arguments) → 0 ≤ expected ∧ expected ≤ maxExpected →
    s.react s.sent.length (c :: arguments) = .answered (ack c :: response) →
      (fixedCommand opts (c :: arguments) expected).run handle s =
        (readResponse opts expected.toNat []).run handle ((s.afterSend (c :: arguments) []).afterRead response)

theorem inStep_of_queue_eq_nil (h : s.queue = []) : InStep opts s := by
  intro c arguments expected response hcomplete hexpected hreact
  have hqueue : (s.afterSend (c :: arguments) (s.queue ++ ack c :: response)).queue = ack c :: response := by
    rw [h]
    rfl
  rw [run_fixedCommand_of_awaitAck_ok hcomplete hexpected hreact (run_awaitAck_of_ack hqueue)]
  rfl

section Attempts

theorem run_command_of_fixedCommand {s' : QueuedLink} {response : Bytes} {o : Outcome}
    (h : (fixedCommand opts [c] 0).run handle s = (.ok (response, o), s')) :
    (command opts c).run handle s = (.ok o, s') := by
  rw [command, run_bind_of_ok h]
  rfl

theorem run_sync_of_refused (h : s.react s.sent.length [sync] = .refused e) :
    (command opts sync).run handle s = (.ok (.error (.link e)), s.afterSend [sync] s.queue) :=
  run_command_of_fixedCommand (run_fixedCommand_of_refused rfl (by decide) h)

variable (hanswer : s.react s.sent.length [sync] = .answered answer)
include hanswer

theorem run_sync_of_nil (h : s.queue ++ answer = []) :
    (command opts sync).run handle s = (.ok (.error (.link (.noResponse opts.responseDelay))),
      (s.afterSend [sync] (s.queue ++ answer)).afterRead []) :=
  run_command_of_fixedCommand
    (run_fixedCommand_of_awaitAck_error rfl (by decide) hanswer (run_awaitAck_of_nil h))

theorem run_sync_of_ne (h : s.queue ++ answer = b :: rest) (hb : b ≠ ack sync) :
    (command opts sync).run handle s = (.ok (.error (.unexpectedResponse sync b)),
      (s.afterSend [sync] (s.queue ++ answer)).afterRead rest) :=
  run_command_of_fixedCommand
    (run_fixedCommand_of_awaitAck_error rfl (by decide) hanswer (run_awaitAck_of_ne h hb))

theorem run_sync_of_ack (h : s.queue ++ answer = ack sync :: rest) :
    (command opts sync).run handle s =
      (.ok (.ok ()), (s.afterSend [sync] (s.queue ++ answer)).afterRead rest) :=
  run_command_of_fixedCommand
    (run_fixedCommand_of_awaitAck_ok rfl (by decide) hanswer (run_awaitAck_of_ack h))

end Attempts

theorem run_syncAfter_of_ok {s' : QueuedLink} {failed left : Nat}
    (h : (command opts sync).run handle s = (.ok (.ok ()), s')) :
    (syncAfter opts failed (left + 1)).run handle s =
      (.ok (.ok ()), { s' with queue := s'.queue.drop failed, reads := s'.reads + failed }) := by
  rw [syncAfter, run_bind_of_ok h]
  dsimp only
  rw [run_bind_of_ok (run_drain failed)]
  rfl

theorem run_syncAfter_of_error {s' : QueuedLink} {failed left : Nat} {e : SessionError}
    (h : (command opts sync).run handle s = (.ok (.error e), s')) :
    (syncAfter opts failed (left + 1)).run handle s = (syncAfter opts (failed + 1) left).run handle s' := by
  have hnote (line : Bytes) : (Link.note line).run handle s' = (.ok (), s') := rfl
  have hpause : (Link.pause opts.retryDelay).run handle s' = (.ok (), s') := rfl
  rw [syncAfter, run_bind_of_ok h]
  dsimp only
  rw [run_bind_of_ok (hnote _)]
  split
  · rw [run_bind_of_ok hpause]
  · rfl

/-- A queue in which nothing but acknowledgements, and at most `n` of them, is behind the bytes left over. -/
def Settling (n : Nat) (queue : Bytes) : Prop :=
  ∃ stale acks, ack sync ∉ stale ∧ acks ≤ n ∧ queue = stale ++ List.replicate acks (ack sync)

section Settling

variable {n : Nat} {queue : Bytes}

theorem Settling.succ (h : Settling n queue) : Settling (n + 1) queue := by
  obtain ⟨stale, acks, hstale, hacks, hqueue⟩ := h
  exact ⟨stale, acks, hstale, Nat.le_succ_of_le hacks, hqueue⟩

theorem Settling.append_ack (h : Settling n queue) : Settling (n + 1) (queue ++ [ack sync]) := by
  obtain ⟨stale, acks, hstale, hacks, rfl⟩ := h
  refine ⟨stale, acks + 1, hstale, Nat.succ_le_succ hacks, ?_⟩
  rw [List.replicate_succ', List.append_assoc]

theorem Settling.append {answer : Bytes} (h : Settling n queue) (hanswer : answer = [] ∨ answer = [ack sync]) :
    Settling (n + 1) (queue ++ answer) := by
  obtain rfl | rfl := hanswer
  · rw [List.append_nil]
    exact h.succ
  · exact h.append_ack

theorem Settling.tail (h : Settling n (b :: queue)) (hb : b ≠ ack sync) : Settling n queue := by
  obtain ⟨stale, acks, hstale, hacks, hqueue⟩ := h
  cases stale with
  | nil =>
    have hmem : b ∈ List.replicate acks (ack sync) := by
      rw [← List.nil_append (List.replicate _ _), ← hqueue]
      exact List.mem_cons_self
    exact absurd (List.eq_of_mem_replicate hmem) hb
  | cons b' stale =>
    obtain ⟨-, hqueue⟩ := List.cons.inj hqueue
    exact ⟨stale, acks, fun hmem => hstale (List.mem_cons_of_mem _ hmem), hacks, hqueue⟩

/-- Once an acknowledgement comes, no byte left over can be behind it. -/
theorem Settling.length_le_of_ack (h : Settling (n + 1) (ack sync :: queue)) : queue.length ≤ n := by
  obtain ⟨stale, acks, hstale, hacks, hqueue⟩ := h
  cases stale with
  | nil =>
    have hlength := congrArg List.length hqueue
    rw [List.nil_append, List.length_replicate, List.length_cons] at hlength
    omega
  | cons b stale =>
    obtain ⟨rfl, -⟩ := List.cons.inj hqueue
    exact absurd List.mem_cons_self hstale

end Settling

/-- One attempt either is acknowledged, and then the queue holds no more than the attempts before can have left,
or fails and leaves at most one acknowledgement more. -/
theorem exists_run_sync (opts : SessionOptions) {failed : Nat}
    (hsimple : (s.react s.sent.length [sync]).IsSimple sync) (hqueue : Settling failed s.queue) :
    ∃ o s', (command opts sync).run handle s = (.ok o, s') ∧ s'.react = s.react ∧ s'.sent = s.sent ++ [[sync]] ∧
      ((o = .ok () ∧ s'.queue.length ≤ failed) ∨ ((∃ e, o = .error e) ∧ Settling (failed + 1) s'.queue)) := by
  cases hreact : s.react s.sent.length [sync] with
  | refused e => exact ⟨_, _, run_sync_of_refused hreact, rfl, rfl, .inr ⟨⟨_, rfl⟩, hqueue.succ⟩⟩
  | answered answer =>
    rw [hreact] at hsimple
    have hsettling : Settling (failed + 1) (s.queue ++ answer) := hqueue.append hsimple
    cases hread : s.queue ++ answer with
    | nil =>
      rw [hread] at hsettling
      exact ⟨_, _, run_sync_of_nil hreact hread, rfl, rfl, .inr ⟨⟨_, rfl⟩, hsettling⟩⟩
    | cons b rest =>
      rw [hread] at hsettling
      by_cases hb : b = ack sync
      · subst hb
        exact ⟨_, _, run_sync_of_ack hreact hread, rfl, rfl, .inl ⟨rfl, hsettling.length_le_of_ack⟩⟩
      · exact ⟨_, _, run_sync_of_ne hreact hread hb, rfl, rfl, .inr ⟨⟨_, rfl⟩, hsettling.tail hb⟩⟩

theorem exists_run_syncAfter {failed left : Nat} (hsimple : ∀ k, (s.react k [sync]).IsSimple sync)
    (hqueue : Settling failed s.queue) :
    ∃ o s', (syncAfter opts failed left).run handle s = (.ok o, s') ∧
      ((o = .ok () ∧ s'.queue = []) ∨
        (o = .error (.notSynchronized opts.syncTries) ∧ s'.sent = s.sent ++ List.replicate left [sync])) := by
  induction left generalizing s failed with
  | zero => exact ⟨_, _, rfl, .inr ⟨rfl, (List.append_nil _).symm⟩⟩
  | succ left ih =>
    obtain ⟨o, s₁, hrun, hreact, hsent, ⟨rfl, hlength⟩ | ⟨⟨e, rfl⟩, hqueue₁⟩⟩ :=
      exists_run_sync opts (hsimple _) hqueue
    · exact ⟨_, _, run_syncAfter_of_ok hrun, .inl ⟨rfl, List.drop_eq_nil_of_le hlength⟩⟩
    · obtain ⟨o, s₂, hrest, hend⟩ := ih (fun k => hreact ▸ hsimple k) hqueue₁
      refine ⟨o, s₂, (run_syncAfter_of_error hrun).trans hrest, hend.imp_right fun ⟨ho, hsent₂⟩ => ⟨ho, ?_⟩⟩
      rw [hsent₂, hsent, List.append_assoc, List.replicate_succ]
      rfl

/-- If every attempt is acknowledged at once, each byte left over costs one attempt and two readings: one for the
byte itself and one for the acknowledgement that it was taken for. -/
theorem exists_run_syncAfter_of_answered {failed left : Nat} {stale : Bytes}
    (hanswer : ∀ k, s.react k [sync] = .answered [ack sync]) (hstale : ack sync ∉ stale)
    (hqueue : s.queue = stale ++ List.replicate failed (ack sync)) :
    ∃ o s', (syncAfter opts failed left).run handle s = (.ok o, s') ∧ (o = .ok () ↔ stale.length < left) ∧
      (o = .ok () → s'.sent = s.sent ++ List.replicate (stale.length + 1) [sync] ∧
        s'.reads = s.reads + failed + 2 * stale.length + 1) := by
  -- Every attempt that fails moves one byte from `stale` to the acknowledgements behind it.
  induction left generalizing s failed stale with
  | zero => exact ⟨_, _, rfl, by simp, nofun⟩
  | succ left ih =>
    have hread : s.queue ++ [ack sync] = stale ++ List.replicate (failed + 1) (ack sync) := by
      rw [hqueue, List.append_assoc, ← List.replicate_succ']
    cases stale with
    | nil =>
      refine ⟨_, _, run_syncAfter_of_ok (run_sync_of_ack (hanswer _) hread), by simp, fun _ => ⟨rfl, ?_⟩⟩
      simp only [afterRead, afterSend, List.length_nil]
      omega
    | cons b stale =>
      have hb : b ≠ ack sync := fun h => hstale (h ▸ List.mem_cons_self)
      rw [run_syncAfter_of_error (run_sync_of_ne (hanswer _) hread hb)]
      obtain ⟨o, s', hrun, hiff, hcount⟩ :=
        ih (s := (s.afterSend [sync] (s.queue ++ [ack sync])).afterRead (stale ++ List.replicate (failed + 1) _))
          hanswer (fun hmem => hstale (List.mem_cons_of_mem _ hmem)) rfl
      refine ⟨o, s', hrun, ?_, fun ho => ?_⟩
      · rw [hiff, List.length_cons]
        omega
      · obtain ⟨hsent, hreads⟩ := hcount ho
        constructor
        · rw [hsent, List.length_cons, List.replicate_succ (n := stale.length + 1)]
          simp [afterRead, afterSend]
        · rw [hreads, List.length_cons]
          simp only [afterRead, afterSend]
          omega

/-- Synchronizing recovers the framing, whatever is left over and however many attempts are refused or go
unanswered: it ends well only with the link in step, and badly only after all attempts. If every attempt is
acknowledged, it ends well exactly if there are more attempts than bytes left over. -/
theorem synchronize_recovers_framing (opts : SessionOptions) {stale : Bytes} {react : Nat → Bytes → Reaction}
    (hstale : ack sync ∉ stale) (hsimple : ∀ k, (react k [sync]).IsSimple sync) :
    ∃ o s', (synchronize opts).run handle ⟨stale, react, [], 0⟩ = (.ok o, s') ∧
      ((o = .ok () ∧ s'.queue = [] ∧ InStep opts s') ∨
        (o = .error (.notSynchronized opts.syncTries) ∧
          s'.sent = List.replicate opts.syncTries.toNat [sync])) ∧
      ((∀ k, react k [sync] = .answered [ack sync]) →
        (o = .ok () ↔ stale.length < opts.syncTries) ∧
        (o = .ok () → s'.sent = List.replicate (stale.length + 1) [sync] ∧ s'.reads = 2 * stale.length + 1)) := by
  have hqueue : stale = stale ++ List.replicate 0 (ack sync) := (List.append_nil _).symm
  obtain ⟨o, s', hrun, hend⟩ := exists_run_syncAfter (s := ⟨stale, react, [], 0⟩) hsimple
    ⟨stale, 0, hstale, Nat.le_refl 0, hqueue⟩
  refine ⟨o, s', hrun, ?_, fun hanswer => ?_⟩
  · exact hend.imp_left fun ⟨ho, hempty⟩ => ⟨ho, hempty, inStep_of_queue_eq_nil hempty⟩
  · obtain ⟨o₁, s₁, hrun₁, hiff, hcount⟩ := exists_run_syncAfter_of_answered (s := ⟨stale, react, [], 0⟩)
      hanswer hstale hqueue
    obtain ⟨ho, rfl⟩ := Prod.mk.inj (hrun₁.symm.trans hrun)
    obtain rfl := Except.ok.inj ho
    refine ⟨hiff.trans ?_, fun ho => ?_⟩
    · omega
    · obtain ⟨hsent, hreads⟩ := hcount ho
      exact ⟨hsent, hreads.trans (by simp)⟩

/-- Two bytes are left over, the first attempt is refused and the second goes unanswered: the fourth one ends it. -/
theorem synchronize_recovers_framing_lossy :
    let opts : SessionOptions := ⟨0x200, 64, 5, 6, 0, true, false⟩
    let react : Nat → Bytes → Reaction := fun k _ =>
      if k = 0 then .refused (.nothingTaken []) else if k = 1 then .answered [] else .answered [ack sync]
    ack sync ∉ ([0x07, 0x55] : Bytes) ∧ (∀ k, (react k [sync]).IsSimple sync) ∧
      ∃ s', (synchronize opts).run handle ⟨[0x07, 0x55], react, [], 0⟩ = (.ok (.ok ()), s') ∧
        s'.sent = List.replicate 4 [sync] ∧ s'.queue = [] ∧ InStep opts s' := by
  intro opts react
  have hstale : ack sync ∉ ([0x07, 0x55] : Bytes) := by decide
  have hsimple (k : Nat) : (react k [sync]).IsSimple sync := by
    simp only [react]
    split
    · trivial
    · split
      · exact .inl rfl
      · exact .inr rfl
  obtain ⟨o, s', hrun, hend, -⟩ := synchronize_recovers_framing opts hstale hsimple
  obtain ⟨rfl, hqueue, hstep⟩ | ⟨rfl, -⟩ := hend
  · have hsent : s'.sent = List.replicate 4 [sync] := (congrArg (·.2.sent) hrun).symm
    exact ⟨hstale, hsimple, s', hrun, hsent, hqueue, hstep⟩
  · cases congrArg Prod.fst hrun

end QueuedLink

end Chip8
