import Chip8.Proofs.Link.Failures

/-!
# The framing of a command

What a single command does on its link, for all bytes that could be taken for a command and whatever the link
answers. Bytes that are none are refused before the link is touched. Any other command is sent once; behind that
come only readings, of which the first is for the acknowledgement, and no reading is made behind one that failed
or behind a byte that is no acknowledgement. What was read is therefore a row of bytes with at most one failure
at its end, and the response is that row without its first byte.

A response that is as long as expected does not alone mean that the command succeeded: where no response is
expected, the empty one that comes with a failure has this length too (`failed_command_of_expected_length`). So
success is told by the length once the command is acknowledged.
-/

namespace Chip8

namespace Session

/-- The bytes are not a command with its arguments, or the number of response bytes cannot be asked for. -/
def Malformed (fixed : Bytes) (expected : Int) : Prop :=
  fixed = [] ∨
    (∃ command arguments, fixed = command :: arguments ∧ Protocol.argumentCount? command ≠ some arguments.length) ∨
    expected < 0 ∨ 8 < expected

def received (reads : List (Except LinkError UInt8)) : Bytes := reads.filterMap Except.toOption

/-- What is known of the sending of a command and the readings behind it, in their order. -/
structure Framed (command : UInt8) (expected : Int) (result : Except LinkError Unit)
    (reads : List (Except LinkError UInt8)) (response : Bytes) (outcome : Outcome) : Prop where
  unsent : ∀ e, result = .error e → reads = []
  awaited : result = .ok () → reads ≠ []
  unacknowledged : reads.head? ≠ some (.ok (Protocol.ack command)) → reads.length ≤ 1
  length_le : (reads.length : Int) ≤ 1 + expected
  stopped : ∀ before e after, reads = before ++ .error e :: after → after = []
  response_eq : response = received reads.tail
  ok_iff : outcome = .ok () ↔
    reads.head? = some (.ok (Protocol.ack command)) ∧ (response.length : Int) = expected

/-- What is known of the calls of a counted sending. -/
structure Counted (delay : Int) (command : UInt8) (arguments counted : Bytes) (calls : List LinkCall)
    (outcome : Outcome) : Prop where
  mismatched : counted.length ≠ ((command :: arguments).getLast (List.cons_ne_nil _ _)).toNat → calls = []
  behind : ∀ before bytes result after, calls = before ++ .sent bytes result :: after →
    (before = [] ∧ bytes = command :: arguments) ∨
      (before = acknowledged delay command arguments ∧ bytes = counted ∧ after = [])
  ok_iff : outcome = .ok () ↔ calls = acknowledged delay command arguments ++ [.sent counted (.ok ())]

/-! ### Rows of readings -/

@[simp] theorem received_map_ok (bytes : Bytes) : received (bytes.map .ok) = bytes := by
  rw [received, List.filterMap_map]
  exact List.filterMap_some

@[simp] theorem received_append_error (reads : List (Except LinkError UInt8)) (e : LinkError) :
    received (reads ++ [.error e]) = received reads := by
  rw [received, List.filterMap_append]
  exact List.append_nil _

/-- Behind bytes that came there is at most one failure, so nothing stands behind it. -/
theorem eq_nil_of_behind_error {bytes : Bytes} {last before after : List (Except LinkError UInt8)} {e : LinkError}
    (hlast : last.length ≤ 1) (h : bytes.map .ok ++ last = before ++ .error e :: after) : after = [] := by
  induction bytes generalizing before with
  | nil =>
    have hlength := congrArg List.length h
    simp only [List.map_nil, List.nil_append, List.length_append, List.length_cons] at hlength
    apply List.eq_nil_of_length_eq_zero
    omega
  | cons b bytes ih =>
    cases before with
    | nil => cases (List.cons.inj h).1
    | cons first before => exact ih (List.cons.inj h).2

/-! ### Commands -/

variable {opts : SessionOptions} {command : UInt8} {arguments : Bytes} {expected : Int} {calls : List LinkCall}

theorem not_malformed_iff {fixed : Bytes} : ¬Malformed fixed expected ↔ ∃ command arguments,
    fixed = command :: arguments ∧ isComplete fixed = true ∧ 0 ≤ expected ∧ expected ≤ maxExpected := by
  have hmax : maxExpected = 8 := rfl
  cases fixed with
  | nil => simp [Malformed]
  | cons command arguments =>
    have hcomplete : isComplete (command :: arguments) = true ↔
        Protocol.argumentCount? command = some arguments.length := decide_eq_true_iff
    constructor
    · intro h
      rw [Malformed, not_or, not_or, not_or] at h
      refine ⟨command, arguments, rfl, ?_, by omega, by omega⟩
      by_contra hnot
      exact h.2.1 ⟨command, arguments, rfl, mt hcomplete.2 hnot⟩
    · rintro ⟨-, -, -, hyes, hlow, hhigh⟩ (hnil | ⟨c, rest, heq, hne⟩ | hout)
      · cases hnil
      · cases heq
        exact hne (hcomplete.1 hyes)
      · omega

theorem fixedCommand_of_malformed (opts : SessionOptions) {fixed : Bytes} (h : Malformed fixed expected) :
    ∃ e, fixedCommand opts fixed expected = .done ([], .error e) := by
  cases fixed with
  | nil => exact ⟨_, rfl⟩
  | cons command arguments =>
    rw [fixedCommand]
    by_cases hcomplete : isComplete (command :: arguments) = true
    · have hexpected : expected < 0 ∨ expected > maxExpected := by
        by_contra hrange
        exact not_malformed_iff.2 ⟨command, arguments, rfl, hcomplete, by omega, by omega⟩ h
      rw [if_neg (not_not_intro hcomplete), if_pos hexpected]
      exact ⟨_, rfl⟩
    · rw [if_pos hcomplete]
      exact ⟨_, rfl⟩

theorem framed_of_acknowledged {bytes : Bytes} {last : List (Except LinkError UInt8)} {outcome : Outcome}
    (hlast : last.length ≤ 1) (hresponse : received (bytes.map .ok ++ last) = bytes)
    (hlength : (bytes.length + last.length : Int) ≤ expected)
    (hok : outcome = .ok () ↔ (bytes.length : Int) = expected) :
    Framed command expected (.ok ()) (.ok (Protocol.ack command) :: (bytes.map .ok ++ last)) bytes outcome where
  unsent := nofun
  awaited := fun _ => List.cons_ne_nil _ _
  unacknowledged := fun h => absurd rfl h
  length_le := by
    simp only [List.length_cons, List.length_append, List.length_map]
    omega
  stopped := by
    intro before e after h
    rw [← List.cons_append, ← List.map_cons] at h
    exact eq_nil_of_behind_error hlast h
  response_eq := hresponse.symm
  ok_iff := by
    rw [hok]
    exact (and_iff_right rfl).symm

theorem framed_of_unacknowledged {result : Except LinkError Unit} {reads : List (Except LinkError UInt8)}
    {cause : SessionError} (hexpected : 0 ≤ expected) (hone : reads.length ≤ 1)
    (hunsent : ∀ e, result = .error e → reads = []) (hawaited : result = .ok () → reads ≠ [])
    (hhead : reads.head? ≠ some (.ok (Protocol.ack command))) :
    Framed command expected result reads [] (.error cause) where
  unsent := hunsent
  awaited := hawaited
  unacknowledged := fun _ => hone
  length_le := by omega
  stopped := fun before e after h => eq_nil_of_behind_error hone (show ([] : Bytes).map .ok ++ reads = _ from h)
  response_eq := by
    have htail : reads.tail = [] := List.eq_nil_of_length_eq_zero (by rw [List.length_tail]; omega)
    rw [htail]
    rfl
  ok_iff := iff_of_false nofun fun h => hhead h.1

theorem framed_of_commandFails {cause : SessionError} {delay : Int}
    (h : CommandFails delay command arguments calls cause) (hexpected : 0 ≤ expected) :
    ∃ result reads, calls = .sent (command :: arguments) result :: reads.map (.received delay) ∧
      Framed command expected result reads [] (.error cause) := by
  cases h with
  | unsent e =>
    exact ⟨.error e, [], rfl, framed_of_unacknowledged hexpected (Nat.zero_le 1) (fun _ _ => rfl) nofun nofun⟩
  | unheard e =>
    exact ⟨.ok (), [.error e], rfl, framed_of_unacknowledged hexpected (Nat.le_refl 1) nofun nofun nofun⟩
  | @misheard b hb =>
    refine ⟨.ok (), [.ok b], rfl, framed_of_unacknowledged hexpected (Nat.le_refl 1) nofun nofun fun hhead => hb ?_⟩
    exact Except.ok.inj (Option.some.inj hhead)

theorem framed_of_talks (hcomplete : isComplete (command :: arguments) = true)
    (hexpected : 0 ≤ expected ∧ expected ≤ maxExpected) {r : Except Crash (Bytes × Outcome)}
    (h : Talks (fixedCommand opts (command :: arguments) expected) calls r) :
    ∃ result reads response outcome, r = .ok (response, outcome) ∧
      calls = .sent (command :: arguments) result :: reads.map (.received opts.responseDelay) ∧
      Framed command expected result reads response outcome := by
  obtain ⟨e, rfl, hbreaks⟩ | ⟨rest, rfl, hread⟩ := talks_fixedCommand opts hcomplete hexpected h
  · obtain ⟨cause, rfl, hfails⟩ := commandFails_of_breaks hbreaks
    obtain ⟨result, reads, hcalls, hframed⟩ := framed_of_commandFails hfails hexpected.1
    exact ⟨result, reads, [], .error _, rfl, hcalls, hframed⟩
  · obtain ⟨bytes, hlength, rfl, rfl⟩ | ⟨bytes, e, hlength, rfl, rfl⟩ := talks_readResponse opts hread
    · have hframed : Framed command expected (.ok ()) (.ok (Protocol.ack command) :: (bytes.map .ok ++ [])) bytes (.ok ()) :=
        framed_of_acknowledged (Nat.zero_le 1) (by simp) (by simp only [List.length_nil]; omega)
          (iff_of_true rfl (by omega))
      refine ⟨.ok (), _, bytes, .ok (), rfl, ?_, hframed⟩
      simp [Exchange.calls, Exchange.ofCommand, arrivals]
    · have hframed : Framed command expected (.ok ()) (.ok (Protocol.ack command) :: (bytes.map .ok ++ [.error e])) bytes
          (.error (.link e)) :=
        framed_of_acknowledged (Nat.le_refl 1) (by simp) (by simp only [List.length_singleton]; omega)
          (iff_of_false (by simp) (by omega))
      refine ⟨.ok (), _, bytes, .error (.link e), rfl, ?_, hframed⟩
      simp [Exchange.calls, Exchange.ofCommand, arrivals]

/-! ### Counted sendings -/

section Counted

variable {counted : Bytes} {delay : Int} {outcome : Outcome}

theorem counted_of_nil (houtcome : outcome ≠ .ok ()) : Counted delay command arguments counted [] outcome where
  mismatched := fun _ => rfl
  behind := fun before bytes result after h => absurd h.symm (by simp)
  ok_iff := iff_of_false houtcome nofun

theorem counted_of_commandFails {cause : SessionError} (h : CommandFails delay command arguments calls cause)
    (hcount : counted.length = ((command :: arguments).getLast (List.cons_ne_nil _ _)).toNat) :
    Counted delay command arguments counted calls (.error cause) where
  mismatched := fun hne => absurd hcount hne
  behind := by
    intro before bytes result after hcalls
    obtain ⟨_, reads, rfl, -⟩ := framed_of_commandFails h (Int.le_refl 0)
    obtain ⟨rfl, heq⟩ | ⟨front, rfl, hrest⟩ := List.cons_eq_append_iff.1 hcalls
    · cases heq
      exact .inl ⟨rfl, rfl⟩
    · have hwrites := congrArg writes hrest
      rw [writes_late, writes_append, writes_sent] at hwrites
      exact absurd hwrites.symm (by simp)
  ok_iff := iff_of_false nofun fun hcalls => by cases h <;> cases hcalls

theorem counted_of_acknowledged {result : Except LinkError Unit} (houtcome : outcome = .ok () ↔ result = .ok ())
    (hcount : counted.length = ((command :: arguments).getLast (List.cons_ne_nil _ _)).toNat) :
    Counted delay command arguments counted (acknowledged delay command arguments ++ [.sent counted result]) outcome where
  mismatched := fun hne => absurd hcount hne
  behind := by
    intro before bytes result' after hcalls
    obtain ⟨rfl, heq⟩ | ⟨front, rfl, hrest⟩ := List.cons_eq_append_iff.1 hcalls
    · cases heq
      exact .inl ⟨rfl, rfl⟩
    · obtain ⟨-, heq⟩ | ⟨front, rfl, hlast⟩ := List.cons_eq_append_iff.1 hrest
      · cases heq
      · obtain ⟨rfl, heq⟩ | ⟨-, heq⟩ := List.singleton_eq_append_iff.1 hlast
        · cases heq
          exact .inr ⟨rfl, rfl, rfl⟩
        · cases heq
  ok_iff := by
    rw [houtcome, List.append_cancel_left_eq, List.singleton_inj, LinkCall.sent.injEq]
    exact (and_iff_right rfl).symm

theorem counted_of_talks {r : Except Crash Outcome} (h : Talks (countedSend opts (command :: arguments) counted) calls r) :
    ∃ outcome, r = .ok outcome ∧ Counted opts.responseDelay command arguments counted calls outcome := by
  have hlast := List.getLast?_eq_getLast_of_ne_nil (List.cons_ne_nil command arguments)
  by_cases hcount : counted.length = ((command :: arguments).getLast (List.cons_ne_nil _ _)).toNat
  · by_cases hcomplete : isComplete (command :: arguments) = true
    · obtain ⟨outcome, rfl, hcarries⟩ := performs_countedSend_of_count opts hcomplete hlast hcount calls r h
      refine ⟨outcome, rfl, ?_⟩
      cases hcarries with
      | broken hbreaks =>
        obtain ⟨cause, rfl, hfails⟩ := commandFails_of_breaks hbreaks
        exact counted_of_commandFails hfails hcount
      | whole hpayload =>
        cases hpayload with
        | whole hnil =>
          cases hnil
          exact counted_of_acknowledged (iff_of_true rfl rfl) hcount
        | broken hbreaks =>
          cases hbreaks with
          | unsent e => exact counted_of_acknowledged (iff_of_false (by simp) (by simp)) hcount
          | unheard hawaited _ => exact absurd hawaited.symm (by simp)
          | misheard hawaited _ => exact absurd hawaited.symm (by simp)
    · have hmalformed : Malformed (command :: arguments) 0 :=
        .inr (.inl ⟨command, arguments, rfl, by simpa [isComplete] using hcomplete⟩)
      obtain ⟨e, he⟩ := fixedCommand_of_malformed opts hmalformed
      simp only [countedSend, hlast, hcount, ne_eq, not_true_eq_false, if_false, he] at h
      obtain ⟨rfl, rfl⟩ := talks_done.1 h
      exact ⟨_, rfl, counted_of_nil (by simp)⟩
  · simp only [countedSend, hlast, ne_eq, hcount, not_false_eq_true, if_true] at h
    obtain ⟨rfl, rfl⟩ := talks_done.1 h
    exact ⟨_, rfl, counted_of_nil (by simp)⟩

end Counted

/-- Whatever the link does, a command is refused without a call just if it is malformed. Otherwise it is sent
once, and the readings behind it are for the acknowledgement and then for the response; it succeeds just if it
was acknowledged and the response is as long as expected. Counted bytes are sent only behind an acknowledged
command that counts them, and the sending succeeds just if all three steps did. -/
theorem command_framing_exact (opts : SessionOptions) :
    (∀ fixed expected calls r, Talks (fixedCommand opts fixed expected) calls r → ∃ response outcome,
      r = .ok (response, outcome) ∧ ((calls = [] ∧ ∃ e, outcome = .error e) ↔ Malformed fixed expected) ∧
        (¬Malformed fixed expected → ∃ command arguments result reads, fixed = command :: arguments ∧
          calls = .sent fixed result :: reads.map (.received opts.responseDelay) ∧
          Framed command expected result reads response outcome)) ∧
    ∀ command arguments counted calls r, Talks (countedSend opts (command :: arguments) counted) calls r →
      ∃ outcome, r = .ok outcome ∧ Counted opts.responseDelay command arguments counted calls outcome := by
  refine ⟨fun fixed expected calls r h => ?_, fun command arguments counted calls r h => counted_of_talks h⟩
  by_cases hmalformed : Malformed fixed expected
  · obtain ⟨e, he⟩ := fixedCommand_of_malformed opts hmalformed
    rw [he] at h
    obtain ⟨rfl, rfl⟩ := talks_done.1 h
    exact ⟨[], .error e, rfl, iff_of_true ⟨rfl, e, rfl⟩ hmalformed, fun hnot => absurd hmalformed hnot⟩
  · obtain ⟨command, arguments, rfl, hcomplete, hexpected⟩ := not_malformed_iff.1 hmalformed
    obtain ⟨result, reads, response, outcome, rfl, rfl, hframed⟩ := framed_of_talks hcomplete hexpected h
    refine ⟨response, outcome, rfl, iff_of_false (fun hnone => ?_) hmalformed, fun _ => ?_⟩
    · cases hnone.1
    · exact ⟨command, arguments, result, reads, rfl, rfl, hframed⟩

/-- The version is asked for as if it had two bytes, and only one comes; a page of one byte is sent. -/
theorem command_framing_exact_cut_short :
    let opts : SessionOptions := ⟨0x200, 2, 5, 1, 0, false, false⟩
    let cut := acknowledged 5 Protocol.getVersion [] ++ [.received 5 (.ok 1), .received 5 (.error (.noResponse 5))]
    let page := acknowledged 5 Protocol.writePage [1] ++ [.sent [0x12] (.ok ())]
    Talks (fixedCommand opts [Protocol.getVersion] 2) cut (.ok ([1], .error (.link (.noResponse 5)))) ∧
      (∃ result reads, Framed Protocol.getVersion 2 result reads [1] (.error (.link (.noResponse 5)))) ∧
      Talks (countedSend opts [Protocol.writePage, 1] [0x12]) page (.ok (.ok ())) ∧
      Counted 5 Protocol.writePage [1] [0x12] page (.ok ()) := by
  intro opts cut page
  have hnot : ¬Malformed [Protocol.getVersion] 2 := not_malformed_iff.2 ⟨_, _, rfl, rfl, by decide, by decide⟩
  have hcut : Talks (fixedCommand opts [Protocol.getVersion] 2) cut (.ok ([1], .error (.link (.noResponse 5)))) :=
    .send _ (.receive _ (.receive _ (.receive _ (.done _))))
  have hpage : Talks (countedSend opts [Protocol.writePage, 1] [0x12]) page (.ok (.ok ())) :=
    .send _ (.receive _ (.send _ (.done _)))
  obtain ⟨hfixed, hcounted⟩ := command_framing_exact opts
  obtain ⟨response, outcome, hr, -, hframed⟩ := hfixed _ _ _ _ hcut
  cases hr
  obtain ⟨command, arguments, result, reads, heq, -, h⟩ := hframed hnot
  cases heq
  obtain ⟨outcome, hr, hpaged⟩ := hcounted _ _ _ _ _ hpage
  cases hr
  exact ⟨hcut, ⟨result, reads, h⟩, hpage, hpaged⟩

/-- A response as long as expected does not mean that there was no error: no response is expected of the
synchronizing command, and none came with its failure. -/
theorem failed_command_of_expected_length :
    ¬∀ (opts : SessionOptions) (fixed : Bytes) (expected : Int) (calls : List LinkCall) (response : Bytes)
      (outcome : Outcome), ¬Malformed fixed expected →
        Talks (fixedCommand opts fixed expected) calls (.ok (response, outcome)) →
        ((response.length : Int) = expected ↔ outcome = .ok ()) := by
  intro hlengths
  have hnot : ¬Malformed [Protocol.sync] 0 := not_malformed_iff.2 ⟨_, _, rfl, rfl, by decide, by decide⟩
  have htalks : Talks (fixedCommand ⟨0x200, 2, 5, 1, 0, false, false⟩ [Protocol.sync] 0)
      [.sent [Protocol.sync] (.ok ()), .received 5 (.error (.noResponse 5))] (.ok ([], .error (.link (.noResponse 5)))) :=
    .send _ (.receive _ (.done _))
  cases (hlengths _ _ _ _ _ _ hnot htalks).1 rfl

end Session

end Chip8
