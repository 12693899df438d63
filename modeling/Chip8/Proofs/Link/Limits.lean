import Chip8.Proofs.Link.Refusal
import Mathlib.Algebra.Order.Floor.Div

/-!
# Uploads end, and look past no end

An upload has a limit on its calls that is known beforehand. An attempt to synchronize takes two calls, and one
more if it fails and another one succeeds; the question for the version takes three, a page five and the start
two. These are counted along the runs of `talks_upload`.

Every look-up by position in a session has a bound to keep to, and every command a length. `guardedUpload` is an
upload in which each of them is checked and a failed check is a fault of its own. It is the same program as the
upload for any choice of that fault, and no run of the upload ends in a fault, so no check fails. The one check
that hangs on what was read is the one for the byte of the version; there the two programs agree since they need
to only on the results that can be reached (`bind_congr_of_talks`).
-/

namespace Chip8

variable {α β : Type}

/-- What follows a program matters only at the results that it can end with. -/
theorem bind_congr_of_talks {p : Program Link α} {f g : α → Program Link β}
    (h : ∀ calls a, Talks p calls (.ok a) → f a = g a) : p >>= f = p >>= g := by
  induction p with
  | done a => exact h [] a (.done a)
  | halt crash => rfl
  | call op next ih =>
    apply congrArg (Program.call op)
    funext answer
    apply ih
    intro calls a htalks
    cases op with
    | receive timeout => exact h _ a (.receive answer htalks)
    | send bytes => exact h _ a (.send answer htalks)
    | note line => exact h _ a (.note htalks)
    | pause time => exact h _ a (.pause htalks)

namespace Session

/-! ### How many calls there are -/

namespace Exchange

/-- The calls an exchange makes at most. -/
def cost (x : Exchange) : Nat := 1 + x.awaited.length

theorem length_calls (delay : Int) (x : Exchange) : (x.calls delay).length = x.cost := by
  rw [calls, List.length_cons, arrivals, List.length_map, cost, Nat.add_comm]

theorem Breaks.length_le {delay : Int} {x : Exchange} {calls : List LinkCall} {e : SessionError}
    (h : x.Breaks delay calls e) : calls.length ≤ x.cost := by
  have hpart {before after : List Awaited} {a : Awaited} (hawaited : x.awaited = before ++ a :: after) (last : LinkCall) :
      (arrivals delay before ++ [last]).length ≤ x.awaited.length := by
    rw [hawaited, arrivals, List.length_append, List.length_append, List.length_map, List.length_singleton,
      List.length_cons]
    omega
  cases h with
  | unsent e => exact Nat.le_add_right 1 _
  | unheard hawaited e =>
    have := hpart hawaited (.received delay (.error e))
    rw [List.length_cons, cost]
    omega
  | @misheard before after a hawaited b hb =>
    have := hpart hawaited (.received delay (.ok b))
    rw [List.length_cons, cost]
    omega

end Exchange

theorem Carries.length_le {delay : Int} {xs : List Exchange} {calls : List LinkCall} {o : Outcome}
    (h : Carries delay xs calls o) : calls.length ≤ (xs.map Exchange.cost).sum := by
  induction h with
  | nil => exact Nat.le_refl 0
  | whole h ih =>
    rw [List.length_append, Exchange.length_calls, List.map_cons, List.sum_cons]
    omega
  | broken h =>
    rw [List.map_cons, List.sum_cons]
    exact Nat.le_trans h.length_le (Nat.le_add_right _ _)

theorem length_attempts_le {delay : Int} {attempts : List (List LinkCall)}
    (h : ∀ a ∈ attempts, ∃ e, Exchange.sync.Breaks delay a e) : attempts.flatten.length ≤ 2 * attempts.length := by
  induction attempts with
  | nil => exact Nat.le_refl 0
  | cons a attempts ih =>
    obtain ⟨e, ha⟩ := h a List.mem_cons_self
    have hfirst : a.length ≤ 2 := ha.length_le
    have hrest := ih fun a hmem => h a (List.mem_cons_of_mem _ hmem)
    rw [List.flatten_cons, List.length_append, List.length_cons]
    omega

variable (opts : SessionOptions) (image : Bytes)

theorem sum_cost_pageExchanges : ((pageExchanges opts image).map Exchange.cost).sum = 5 * pageCount opts image := by
  have hpage : ∀ k, (((pageAt opts image k).exchanges).map Exchange.cost).sum = 5 := fun _ => rfl
  rw [pageExchanges, List.map_flatMap]
  induction pageCount opts image with
  | zero => rfl
  | succ n ih =>
    rw [List.range_succ, List.flatMap_append, List.sum_append, ih, List.flatMap_singleton, hpage]
    omega

theorem sum_cost_plan_le : ((plan opts image).map Exchange.cost).sum ≤ 5 + 5 * pageCount opts image := by
  have hversion : Exchange.version.cost = 3 := rfl
  have hstart : ((if opts.run then [Exchange.start] else []).map Exchange.cost).sum ≤ 2 := by
    split
    · exact Nat.le_refl 2
    · exact Nat.zero_le 2
  rw [plan, List.map_cons, List.map_append, List.sum_cons, List.sum_append, sum_cost_pageExchanges, hversion]
  omega

variable {opts image}

theorem length_calls_le (haccepted : refusal? opts image = none) {calls : List LinkCall} {r : Except Crash Outcome}
    (htalks : Talks (upload opts image) calls r) :
    calls.length ≤ 3 * syncLimit opts + 4 + 5 * pageCount opts image := by
  obtain ⟨attempts, hattempts, ⟨hlength, rfl, -⟩ | ⟨hlength, late, rest, o, hlate, rfl, -, hcarries⟩⟩ :=
    talks_upload haccepted htalks
  · have := length_attempts_le hattempts
    omega
  · have hfailed := length_attempts_le hattempts
    have hrest := Nat.le_trans hcarries.length_le (sum_cost_plan_le opts image)
    have hsync : (Exchange.sync.calls opts.responseDelay).length = 2 := rfl
    simp only [List.length_append, List.length_map, hsync]
    omega

theorem exists_outcome {calls : List LinkCall} {r : Except Crash Outcome} (htalks : Talks (upload opts image) calls r) :
    ∃ o, r = .ok o := by
  by_cases haccepted : refusal? opts image = none
  · obtain ⟨-, -, ⟨-, -, hr⟩ | ⟨-, -, -, o, -, -, hr, -⟩⟩ := talks_upload haccepted htalks
    · exact ⟨_, hr⟩
    · exact ⟨o, hr⟩
  · obtain ⟨e, hr⟩ := exists_error_of_refused (mt refusal?_eq_none_iff.2 haccepted) htalks
    exact ⟨.error e, hr⟩

/-! ### Guards -/

section Guards

variable (fault : Crash) (opts : SessionOptions) (image : Bytes)

/-- The program where the condition holds, and else the fault. -/
def guarded (condition : Prop) [Decidable condition] (p : Program Link α) : Program Link α :=
  if condition then p else .halt fault

/-- A command that must be complete and ask for no more than can be asked for. -/
def guardedCommand (fixed : Bytes) (expected : Int) : Program Link (Bytes × Outcome) :=
  guarded fault (isComplete fixed = true ∧ 0 ≤ expected ∧ expected ≤ maxExpected) (fixedCommand opts fixed expected)

/-- A command that must be complete and end in the number of the bytes behind it. -/
def guardedCountedSend (fixed counted : Bytes) : Program Link Outcome :=
  guarded fault (isComplete fixed = true ∧ fixed.getLast?.map UInt8.toNat = some counted.length)
    (countedSend opts fixed counted)

def guardedSyncAfter (failed left : Nat) : Program Link Outcome :=
  match left with
  | 0 => .done (.error (.notSynchronized opts.syncTries))
  | left + 1 => do
    match (← guardedCommand fault opts [Protocol.sync] 0).2 with
    | .ok () =>
      drain opts failed
      return .ok ()
    | .error e =>
      Link.note (text "sync command failed: " ++ e.message)
      if left > 0 then
        Link.pause opts.retryDelay
        guardedSyncAfter (failed + 1) left
      else guardedSyncAfter (failed + 1) left

def guardedCheckVersion : Program Link Outcome := do
  match ← guardedCommand fault opts [Protocol.getVersion] 1 with
  | (_, .error e) => return .error e
  | (response, .ok ()) =>
    match response[0]? with
    | none => .halt fault
    | some board =>
      if board = Protocol.version then return .ok ()
      else return .error (.version Protocol.version board)

/-- Sends the image from an offset on. Each page is cut out of the image between two bounds. -/
def guardedSendFrom (off : Nat) : Program Link Outcome :=
  if off < image.length then
    if 0 < opts.chunkSize.toNat then do
      let stop := min (off + opts.chunkSize.toNat) image.length
      let address := opts.loadBase.toNat + off
      match (← guardedCommand fault opts [Protocol.setAddress, (address / 256).toUInt8, address.toUInt8] 0).2 with
      | .error e => return .error (.atAddress address e)
      | .ok () =>
        guarded fault (off ≤ stop ∧ stop ≤ image.length) do
          match ← guardedCountedSend fault opts [Protocol.writePage, (stop - off).toUInt8] (image.extract off stop) with
          | .error e => return .error (.atPage address e)
          | .ok () => guardedSendFrom (off + opts.chunkSize.toNat)
    -- the offset would stay where it is
    else .halt fault
  else .done (.ok ())
termination_by image.length - off

def guardedConnect : Program Link Outcome := do
  match ← guardedSyncAfter fault opts 0 opts.syncTries.toNat with
  | .error e => return .error e
  | .ok () =>
    match ← guardedCheckVersion fault opts with
    | .error e => return .error e
    | .ok () =>
      debugNote opts (text "protocol version OK")
      return .ok ()

def guardedDownload : Program Link Outcome := do
  Link.note (text "uploading " ++ Numeral.decimal image.length ++ text " bytes at 0x" ++
    Numeral.hexUpper 3 opts.loadBase.toNat)
  match ← guardedSendFrom fault opts image 0 with
  | .error e => return .error e
  | .ok () =>
    Link.note (text "upload complete")
    return .ok ()

def guardedConduct : Program Link Outcome := do
  match ← guardedConnect fault opts with
  | .error e => return .error e
  | .ok () =>
    match ← guardedDownload fault opts image with
    | .error e => return .error e
    | .ok () =>
      if opts.run then
        Link.note (text "starting image")
        return (← guardedCommand fault opts [Protocol.run] 0).2
      else return .ok ()

/-- An upload with a fault wherever a position is past an end or the length of a command is not right. -/
def guardedUpload : Program Link Outcome :=
  match refusal? opts image with
  | some e => .done (.error e)
  | none => guardedConduct fault { opts with syncTries := max 1 opts.syncTries } image

end Guards

section Guards

variable {fault : Crash} (opts : SessionOptions)

theorem guarded_of {condition : Prop} [Decidable condition] (h : condition) (p : Program Link α) :
    guarded fault condition p = p := if_pos h

theorem guardedCommand_eq {fixed : Bytes} {expected : Int} (hcomplete : isComplete fixed = true)
    (hexpected : 0 ≤ expected ∧ expected ≤ maxExpected) :
    guardedCommand fault opts fixed expected = fixedCommand opts fixed expected :=
  guarded_of ⟨hcomplete, hexpected⟩ _

theorem guardedSyncAfter_eq (failed left : Nat) : guardedSyncAfter fault opts failed left = syncAfter opts failed left := by
  induction left generalizing failed with
  | zero => rfl
  | succ left ih =>
    rw [guardedSyncAfter, guardedCommand_eq opts rfl (by decide), syncAfter, command, Program.bind_assoc]
    simp only [ih]
    rfl

theorem guardedCheckVersion_eq : guardedCheckVersion fault opts = checkVersion opts := by
  rw [guardedCheckVersion, guardedCommand_eq opts rfl (by decide), checkVersion]
  apply bind_congr_of_talks
  rintro calls ⟨response, outcome⟩ htalks
  obtain ⟨e, hr, -⟩ | ⟨rest, -, hread⟩ := talks_fixedCommand opts rfl (by decide) htalks
  · cases hr
    rfl
  · obtain ⟨bytes, hlength, -, hr⟩ | ⟨bytes, e, -, -, hr⟩ := talks_readResponse opts hread
    · obtain ⟨b, rfl⟩ := List.length_eq_one_iff.1 hlength
      cases hr
      rfl
    · cases hr
      rfl

variable {opts} {image : Bytes}

theorem extract_eq_payload (k : Nat) :
    image.extract (k * opts.chunkSize.toNat) (min (k * opts.chunkSize.toNat + opts.chunkSize.toNat) image.length) =
      (pageAt opts image k).payload := by
  show (image.drop _).take _ = (image.drop _).take _
  rw [List.take_eq_take_iff, List.length_drop]
  omega

theorem length_payload_eq (k : Nat) : (pageAt opts image k).payload.length =
    min (k * opts.chunkSize.toNat + opts.chunkSize.toNat) image.length - k * opts.chunkSize.toNat := by
  show ((image.drop _).take _).length = _
  rw [List.length_take, List.length_drop]
  omega

theorem guardedCountedSend_eq (h : Accepted opts image) {k : Nat} (hk : k < pageCount opts image) :
    guardedCountedSend fault opts [Protocol.writePage, (pageAt opts image k).payload.length.toUInt8]
        (pageAt opts image k).payload =
      countedSend opts [Protocol.writePage, (pageAt opts image k).payload.length.toUInt8] (pageAt opts image k).payload := by
  have hlength := (h.length_payload hk).2
  apply guarded_of
  exact ⟨rfl, congrArg some (toNat_toUInt8 (Nat.lt_succ_of_le hlength))⟩

theorem guardedSendFrom_eq (h : Accepted opts image) {k n : Nat} (hpages : k + n = pageCount opts image) :
    guardedSendFrom fault opts image (k * opts.chunkSize.toNat) =
      sendPages opts ((List.range' k n).map (pageAt opts image)) := by
  induction n generalizing k with
  | zero =>
    have hend : ¬k * opts.chunkSize.toNat < image.length := by
      rw [← Bytes.lt_chunkCount_iff h.size_pos]
      show ¬k < pageCount opts image
      omega
    rw [guardedSendFrom, if_neg hend]
    rfl
  | succ n ih =>
    have hk : k < pageCount opts image := by omega
    have hstart : k * opts.chunkSize.toNat < image.length := (Bytes.lt_chunkCount_iff h.size_pos).1 hk
    have hnext : guardedSendFrom fault opts image (k * opts.chunkSize.toNat + opts.chunkSize.toNat) =
        sendPages opts ((List.range' (k + 1) n).map (pageAt opts image)) := by
      rw [← Nat.succ_mul]
      apply ih
      omega
    rw [guardedSendFrom, if_pos hstart, if_pos h.size_pos, List.range'_succ, List.map_cons, sendPages, sendAddress,
      Program.bind_assoc]
    dsimp only
    rw [guardedCommand_eq opts rfl (by decide)]
    apply congrArg
    funext ⟨response, outcome⟩
    cases outcome with
    | error e => rfl
    | ok _ =>
      show guarded fault _ _ = _
      rw [guarded_of (by omega), extract_eq_payload, ← length_payload_eq, guardedCountedSend_eq h hk, hnext]
      rfl

theorem guardedConnect_eq : guardedConnect fault opts = connect opts := by
  rw [guardedConnect, guardedSyncAfter_eq, guardedCheckVersion_eq]
  rfl

theorem guardedDownload_eq (h : Accepted opts image) : guardedDownload fault opts image = download opts image 0 := by
  have hsize : ¬(opts.chunkSize < 0 ∧ ¬image.isEmpty) := by
    have := h.one_le
    omega
  have himage : guardedSendFrom fault opts image (0 * opts.chunkSize.toNat) = sendImage opts image 0 := by
    rw [guardedSendFrom_eq h (Nat.zero_add (pageCount opts image)), sendImage, if_neg hsize, pages_eq_map h,
      List.range_eq_range']
  rw [Nat.zero_mul] at himage
  rw [guardedDownload, himage]
  rfl

theorem guardedConduct_eq (h : Accepted opts image) : guardedConduct fault opts image = conduct opts image := by
  rw [guardedConduct, guardedConnect_eq, guardedDownload_eq h, guardedCommand_eq opts rfl (by decide)]
  rfl

variable (fault opts image) in
theorem guardedUpload_eq : guardedUpload fault opts image = upload opts image := by
  cases hrefusal : refusal? opts image with
  | some e => simp only [guardedUpload, upload, hrefusal]
  | none =>
    have h := accepted_of_refusal? hrefusal
    simp only [guardedUpload, upload, hrefusal]
    apply guardedConduct_eq
    exact ⟨h.nonempty, h.fits, h.one_le, h.le_max⟩

end Guards

/-! ### Counted runs -/

/-- Sendings and requests for a byte are counted, notes and pauses are not. -/
def weight : LinkOp → Nat
  | .receive _ | .send _ => 1
  | .note _ | .pause _ => 0

/-- The handler that counts its calls besides. -/
def tallied {σ : Type} (handle : Program.Handler Link σ) : Program.Handler Link (σ × Nat) := fun op s =>
  match handle op s.1 with
  | (answer, s') => (answer, s', s.2 + weight op)

theorem talks_run_tallied {σ : Type} {handle : Program.Handler Link σ}
    (hanswers : ∀ op s, ∃ answer s', handle op s = (.ok answer, s')) (p : Program Link α) (s : σ) (n : Nat) :
    ∃ calls, Talks p calls (p.run (tallied handle) (s, n)).1 ∧
      (p.run (tallied handle) (s, n)).2.2 = n + calls.length := by
  induction p generalizing s n with
  | done a => exact ⟨[], .done a, rfl⟩
  | halt crash => exact ⟨[], .halt crash, rfl⟩
  | call op next ih =>
    obtain ⟨answer, s', hanswer⟩ := hanswers op s
    obtain ⟨calls, htalks, hcount⟩ := ih answer s' (n + weight op)
    simp only [Program.run, tallied, hanswer]
    cases op with
    | receive timeout => exact ⟨_, .receive answer htalks, by rw [hcount, List.length_cons, weight]; omega⟩
    | send bytes => exact ⟨_, .send answer htalks, by rw [hcount, List.length_cons, weight]; omega⟩
    | note line => exact ⟨calls, .note htalks, hcount⟩
    | pause time => exact ⟨calls, .pause htalks, hcount⟩

/-! ### Limits -/

section Limits

variable (opts : SessionOptions) (image : Bytes)

/-- The most calls an upload can make: none if it is refused. -/
def callLimit : Nat :=
  if refusal? opts image = none then 3 * (max 1 opts.syncTries).toNat + 4 + 5 * (image.length ⌈/⌉ opts.chunkSize.toNat)
  else 0

theorem pageCount_eq_ceilDiv : pageCount opts image = image.length ⌈/⌉ opts.chunkSize.toNat :=
  (Nat.ceilDiv_eq_add_pred_div image.length opts.chunkSize.toNat).symm

variable {opts image} in
theorem length_calls_le_callLimit {calls : List LinkCall} {r : Except Crash Outcome}
    (htalks : Talks (upload opts image) calls r) : calls.length ≤ callLimit opts image := by
  unfold callLimit
  split
  · next haccepted =>
    rw [← pageCount_eq_ceilDiv]
    exact length_calls_le haccepted htalks
  · next hrefused =>
    rw [(calls_eq_nil_iff htalks).2 (mt refusal?_eq_none_iff.2 hrefused)]
    exact Nat.le_refl 0

/-- Whatever the link, the image and the options are, no look-up and no length check of an upload fails, no run of
it ends in a fault, and none makes more calls than the limit; under any handler that answers each call it comes to
an end within the limit. -/
theorem upload_neither_crashes_nor_runs_on :
    (∀ fault, guardedUpload fault opts image = upload opts image) ∧
      (∀ calls r, Talks (upload opts image) calls r → (∃ o, r = .ok o) ∧ calls.length ≤ callLimit opts image) ∧
      ∀ (σ : Type) (handle : Program.Handler Link σ), (∀ op s, ∃ answer s', handle op s = (.ok answer, s')) →
        ∀ s, ∃ o s' n, (upload opts image).run (tallied handle) (s, 0) = (.ok o, s', n) ∧ n ≤ callLimit opts image := by
  refine ⟨fun fault => guardedUpload_eq fault opts image, ?_, ?_⟩
  · intro calls r htalks
    exact ⟨exists_outcome htalks, length_calls_le_callLimit htalks⟩
  · intro σ handle hanswers s
    obtain ⟨calls, htalks, hcount⟩ := talks_run_tallied hanswers (upload opts image) s 0
    obtain ⟨o, ho⟩ := exists_outcome htalks
    refine ⟨o, _, _, Prod.ext ho rfl, ?_⟩
    rw [hcount, Nat.zero_add]
    exact length_calls_le_callLimit htalks

/-- Two pages and a start behind two attempts to synchronize, where the acknowledgement of the first comes late:
these are as many calls as there can be. -/
theorem upload_neither_crashes_nor_runs_on_late_ack :
    let opts : SessionOptions := ⟨0x200, 2, 5, 2, 0, true, false⟩
    let link : ScriptedLink :=
      ⟨[.error (.noResponse 5), .ok 0x0F, .ok 0x0F, .ok 0x0E, .ok 1, .ok 0x0D, .ok 0x0C, .ok 0x0D, .ok 0x0C, .ok 0x0B],
        [], [], []⟩
    let ended := (upload opts [0x00, 0xE0, 0x12]).run (tallied ScriptedLink.handle) (link, 0)
    (∃ o s' n, ended = (.ok o, s', n) ∧ n ≤ callLimit opts [0x00, 0xE0, 0x12]) ∧
      ended.1 = .ok (.ok ()) ∧ ended.2.2 = 20 ∧ callLimit opts [0x00, 0xE0, 0x12] = 20 := by
  intro opts link ended
  obtain ⟨-, -, hruns⟩ := upload_neither_crashes_nor_runs_on opts [0x00, 0xE0, 0x12]
  refine ⟨hruns ScriptedLink ScriptedLink.handle ScriptedLink.answers link, ?_, ?_, ?_⟩
  · rfl
  · rfl
  · decide

end Limits

end Session

end Chip8
