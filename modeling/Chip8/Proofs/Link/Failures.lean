import Chip8.Proofs.Link.Plan
import Chip8.Proofs.Text.Numerals

/-!
# How far a failed upload got

The error of an upload that fails while it writes the image names an address. The pages below that address were
written, all of them and no other, the step that failed is the last thing that happened on the link, and the error
holds what the link said there, unaltered. An upload that fails with the board's version wrote nothing but the
synchronizing command and the question for the version (`failed_upload_tells_how_far`).

What was written is read off the calls alone: `payloads` takes each sending behind an acknowledged page header and
knows nothing of the image. That these are the first pages follows from where the plan breaks: in the
question for the version, in one page behind the whole of those before it, or in the command to start.
-/

namespace Chip8

namespace Session

/-! ### The payloads of a run -/

/-- The payloads that were written without an error. A payload is sent behind the header of its page once that is
acknowledged. -/
def payloads : List LinkCall → List Bytes
  | [] => []
  | .sent header (.ok ()) :: .received timeout (.ok b) :: .sent payload (.ok ()) :: rest =>
    if header.head? = some Protocol.writePage ∧ b = Protocol.ack Protocol.writePage then payload :: payloads rest
    else payloads (.received timeout (.ok b) :: .sent payload (.ok ()) :: rest)
  | _ :: rest => payloads rest

theorem payloads_received (timeout : Int) (result : Except LinkError UInt8) (rest : List LinkCall) :
    payloads (.received timeout result :: rest) = payloads rest := by
  rw [payloads]
  intro _ _ _ _ _ h
  cases h

theorem payloads_sent {bytes : Bytes} (h : bytes.head? ≠ some Protocol.writePage) (result : Except LinkError Unit)
    (rest : List LinkCall) : payloads (.sent bytes result :: rest) = payloads rest := by
  rw [payloads.eq_def]
  split
  · next heq => cases heq
  · next heq =>
    cases heq
    rw [if_neg fun hheader => h hheader.1]
  · next heq =>
    cases heq
    rfl

/-- Calls that send no page header write no payload. -/
theorem payloads_append {calls : List LinkCall} (h : ∀ w ∈ writes calls, w.head? ≠ some Protocol.writePage)
    (rest : List LinkCall) : payloads (calls ++ rest) = payloads rest := by
  induction calls with
  | nil => rfl
  | cons call calls ih =>
    cases call with
    | sent bytes result =>
      rw [writes_sent] at h
      rw [List.cons_append, payloads_sent (h bytes List.mem_cons_self), ih fun w hw => h w (List.mem_cons_of_mem _ hw)]
    | received timeout result => rw [List.cons_append, payloads_received, ih h]

def acknowledged (delay : Int) (command : UInt8) (arguments : Bytes) : List LinkCall :=
  [.sent (command :: arguments) (.ok ()), .received delay (.ok (Protocol.ack command))]

def addressBytes (address : Nat) : Bytes := [(address / 256).toUInt8, address.toUInt8]

theorem calls_page (delay : Int) (page : Page) : page.exchanges.flatMap (Exchange.calls delay) =
    acknowledged delay Protocol.setAddress (addressBytes page.address) ++
      (acknowledged delay Protocol.writePage [page.payload.length.toUInt8] ++ [.sent page.payload (.ok ())]) := rfl

theorem payloads_address (delay : Int) (address : Nat) (rest : List LinkCall) :
    payloads (acknowledged delay Protocol.setAddress (addressBytes address) ++ rest) = payloads rest := by
  apply payloads_append
  intro w hw
  rw [List.mem_singleton.1 hw, List.head?_cons]
  decide

theorem payloads_page (delay : Int) (page : Page) (rest : List LinkCall) :
    payloads (page.exchanges.flatMap (Exchange.calls delay) ++ rest) = page.payload :: payloads rest := by
  rw [calls_page, List.append_assoc, payloads_address]
  exact if_pos ⟨rfl, rfl⟩

variable (opts : SessionOptions) (image : Bytes)

def firstPages (k : Nat) : List Exchange := (List.range k).flatMap fun i => (pageAt opts image i).exchanges

theorem payloads_firstPages (delay : Int) (k : Nat) (rest : List LinkCall) :
    payloads ((firstPages opts image k).flatMap (Exchange.calls delay) ++ rest) =
      (List.range k).map (Bytes.chunk opts.chunkSize.toNat image) ++ payloads rest := by
  induction k generalizing rest with
  | zero => rfl
  | succ k ih =>
    have hpages : firstPages opts image (k + 1) = firstPages opts image k ++ (pageAt opts image k).exchanges := by
      rw [firstPages, List.range_succ, List.flatMap_append, List.flatMap_singleton]
      rfl
    rw [hpages, List.flatMap_append, List.append_assoc, ih, payloads_page, List.range_succ, List.map_append,
      List.append_assoc]
    rfl

/-! ### Steps that fail -/

/-- A command fails with these calls and this error: it could not be sent, no byte came, or one came in place of
the acknowledgement. -/
inductive CommandFails (delay : Int) (command : UInt8) (arguments : Bytes) : List LinkCall → SessionError → Prop
  | unsent (e : LinkError) :
      CommandFails delay command arguments [.sent (command :: arguments) (.error e)] (.link e)
  | unheard (e : LinkError) :
      CommandFails delay command arguments [.sent (command :: arguments) (.ok ()), .received delay (.error e)] (.link e)
  | misheard {b : UInt8} (hb : b ≠ Protocol.ack command) :
      CommandFails delay command arguments [.sent (command :: arguments) (.ok ()), .received delay (.ok b)]
        (.unexpectedResponse command b)

/-- The writing of a page fails: its header does, or the payload behind the header could not be sent. -/
inductive PageFails (delay : Int) (payload : Bytes) : List LinkCall → SessionError → Prop
  | header {calls : List LinkCall} {cause : SessionError}
      (h : CommandFails delay Protocol.writePage [payload.length.toUInt8] calls cause) :
      PageFails delay payload calls cause
  | unsent (e : LinkError) :
      PageFails delay payload
        (acknowledged delay Protocol.writePage [payload.length.toUInt8] ++ [.sent payload (.error e)]) (.link e)

variable {delay : Int} {calls : List LinkCall} {e : SessionError}

theorem commandFails_of_breaks {command : UInt8} {arguments : Bytes} {context : SessionError → SessionError}
    (h : (Exchange.ofCommand command arguments context).Breaks delay calls e) :
    ∃ cause, e = context cause ∧ CommandFails delay command arguments calls cause := by
  cases h with
  | unsent e => exact ⟨_, rfl, .unsent e⟩
  | unheard h e =>
    obtain ⟨rfl, -⟩ | ⟨-, h⟩ := List.singleton_eq_append_iff.1 h
    · exact ⟨_, rfl, .unheard e⟩
    · cases h
  | misheard h hb =>
    obtain ⟨rfl, h⟩ | ⟨-, h⟩ := List.singleton_eq_append_iff.1 h
    · cases h
      exact ⟨_, rfl, .misheard hb⟩
    · cases h

theorem CommandFails.payloads_eq {command : UInt8} {arguments : Bytes} {cause : SessionError}
    (h : CommandFails delay command arguments calls cause) : payloads calls = [] := by
  cases h with
  | unsent e => rfl
  | unheard e => rfl
  | misheard hb => rfl

theorem PageFails.payloads_eq {payload : Bytes} {cause : SessionError} (h : PageFails delay payload calls cause) :
    payloads calls = [] := by
  cases h with
  | header h => exact h.payloads_eq
  | unsent e => rfl

theorem carries_page_error {page : Page} (h : Carries delay page.exchanges calls (.error e)) :
    (∃ cause, e = .atAddress page.address cause ∧
        CommandFails delay Protocol.setAddress (addressBytes page.address) calls cause) ∨
      ∃ cause step, e = .atPage page.address cause ∧
        calls = acknowledged delay Protocol.setAddress (addressBytes page.address) ++ step ∧
        PageFails delay page.payload step cause := by
  cases h with
  | broken h =>
    obtain ⟨cause, rfl, hfails⟩ := commandFails_of_breaks h
    exact .inl ⟨cause, rfl, hfails⟩
  | whole h =>
    right
    cases h with
    | broken h =>
      obtain ⟨cause, rfl, hfails⟩ := commandFails_of_breaks h
      exact ⟨cause, _, rfl, rfl, .header hfails⟩
    | whole h =>
      cases h with
      | broken h =>
        -- nothing is awaited behind a payload, so only its sending can break
        cases h with
        | unsent e => exact ⟨_, _, rfl, rfl, .unsent e⟩
        | unheard h _ => exact absurd h.symm (by simp)
        | misheard h _ => exact absurd h.symm (by simp)
      | whole h => cases h

/-! ### Where an upload stops -/

variable {opts image}

/-- The plan breaks in the question for the version, in a page behind the whole of those before it, or in the
command to start. -/
theorem carries_plan_error (h : Carries delay (plan opts image) calls (.error e)) :
    Exchange.version.Breaks delay calls e ∨
      (∃ k, k < pageCount opts image ∧ ∃ last,
        calls = Exchange.version.calls delay ++ ((firstPages opts image k).flatMap (Exchange.calls delay) ++ last) ∧
        Carries delay (pageAt opts image k).exchanges last (.error e)) ∨
      ∃ last, Exchange.start.Breaks delay last e := by
  cases h with
  | broken h => exact .inl h
  | whole h =>
    right
    obtain hpages | ⟨last, -, hstart⟩ := h.error_append
    · obtain ⟨k, hk, last, rfl, hpage⟩ := hpages.error_flatMap_range
      exact .inl ⟨k, hk, last, rfl, hpage⟩
    · right
      by_cases hrun : opts.run
      · rw [if_pos hrun] at hstart
        cases hstart with
        | broken h => exact ⟨last, h⟩
        | whole h => cases h
      · rw [if_neg hrun] at hstart
        cases hstart

variable (opts image)

/-- The calls behind those that synchronized, up to page `k`, if all goes well. -/
def callsUpTo (opening : List LinkCall) (k : Nat) : List LinkCall :=
  opening ++ (Exchange.version.calls opts.responseDelay ++
    (firstPages opts image k).flatMap (Exchange.calls opts.responseDelay))

/-- An upload stopped in page `k`, at this address, behind these calls, which all went well once it was
synchronized. Of the image it wrote what lies below the address. -/
structure Stopped (calls before : List LinkCall) (address k : Nat) : Prop where
  page_lt : k < pageCount opts image
  address_eq : address = opts.loadBase.toNat + k * opts.chunkSize.toNat
  payloads_eq : payloads calls = (List.range k).map (Bytes.chunk opts.chunkSize.toNat image)
  covered : (payloads calls).flatten = image.take (address - opts.loadBase.toNat)
  before_eq : ∃ opening tries, writes opening = List.replicate tries [Protocol.sync] ∧
    before = callsUpTo opts image opening k

/-- The error reads as its cause behind a heading with the address in three digits. -/
def ReadsAs (e : SessionError) (heading : String) (address : Nat) (cause : SessionError) : Prop :=
  ∃ digits, Numeral.Printed 16 3 address digits ∧ digits.length = 3 ∧
    e.message = text heading ++ digits ++ text ": " ++ cause.message

/-- What the error of an upload tells of its calls. The step that failed is always the last. -/
structure Told (calls : List LinkCall) (e : SessionError) : Prop where
  atAddress : ∀ address cause, e = .atAddress address cause → ReadsAs e "set address 0x" address cause ∧
    ∃ k before step, Stopped opts image calls before address k ∧ calls = before ++ step ∧
      CommandFails opts.responseDelay Protocol.setAddress (addressBytes address) step cause
  atPage : ∀ address cause, e = .atPage address cause → ReadsAs e "write page at 0x" address cause ∧
    ∃ k before step, Stopped opts image calls before address k ∧
      calls = before ++ (acknowledged opts.responseDelay Protocol.setAddress (addressBytes address) ++ step) ∧
      PageFails opts.responseDelay (Bytes.chunk opts.chunkSize.toNat image k) step cause
  version : ∀ host board, e = .version host board → host = 1 ∧ board ≠ 1 ∧
    ∃ tries before, writes calls = List.replicate tries [Protocol.sync] ++ [[Protocol.getVersion]] ∧
      calls = before ++ (acknowledged opts.responseDelay Protocol.getVersion [] ++
        [.received opts.responseDelay (.ok board)])

variable {opts image} {opening tail : List LinkCall} {tries k : Nat}

theorem not_header_of_sync (h : writes opening = List.replicate tries [Protocol.sync]) :
    ∀ w ∈ writes opening, w.head? ≠ some Protocol.writePage := by
  intro w hw
  rw [h] at hw
  rw [List.eq_of_mem_replicate hw]
  decide

theorem callsUpTo_append : callsUpTo opts image opening k ++ tail =
    opening ++ (Exchange.version.calls opts.responseDelay ++
      ((firstPages opts image k).flatMap (Exchange.calls opts.responseDelay) ++ tail)) := by
  rw [callsUpTo, List.append_assoc, List.append_assoc]

theorem payloads_callsUpTo (hopening : writes opening = List.replicate tries [Protocol.sync]) :
    payloads (callsUpTo opts image opening k ++ tail) =
      (List.range k).map (Bytes.chunk opts.chunkSize.toNat image) ++ payloads tail := by
  have hversion : ∀ w ∈ writes (Exchange.version.calls opts.responseDelay), w.head? ≠ some Protocol.writePage := by
    rw [Exchange.writes_calls]
    decide
  rw [callsUpTo_append, payloads_append (not_header_of_sync hopening), payloads_append hversion, payloads_firstPages]

theorem stopped_of_payloads (hopening : writes opening = List.replicate tries [Protocol.sync])
    (hk : k < pageCount opts image) (htail : payloads tail = []) :
    Stopped opts image (callsUpTo opts image opening k ++ tail) (callsUpTo opts image opening k)
      (pageAt opts image k).address k := by
  have hpayloads : payloads (callsUpTo opts image opening k ++ tail) =
      (List.range k).map (Bytes.chunk opts.chunkSize.toNat image) := by
    rw [payloads_callsUpTo hopening, htail, List.append_nil]
  refine ⟨hk, rfl, hpayloads, ?_, opening, tries, hopening, rfl⟩
  rw [hpayloads, Bytes.flatten_chunk]
  show image.take _ = image.take (opts.loadBase.toNat + k * opts.chunkSize.toNat - opts.loadBase.toNat)
  rw [Nat.add_sub_cancel_left]

theorem Accepted.readsAs (h : Accepted opts image) (hk : k < pageCount opts image) (heading : String)
    {cause : SessionError} (he : e.message =
      text heading ++ Numeral.hexUpper 3 (pageAt opts image k).address ++ text ": " ++ cause.message) :
    ReadsAs e heading (pageAt opts image k).address cause := by
  have hprinted := Numeral.printed_hexUpper (show 1 ≤ 3 by decide) (pageAt opts image k).address
  exact ⟨_, hprinted, hprinted.length_eq (h.address_lt hk), he⟩

theorem told_of_version (hopening : writes opening = List.replicate tries [Protocol.sync])
    (h : Exchange.version.Breaks opts.responseDelay calls e) : Told opts image (opening ++ calls) e := by
  cases h with
  | unsent e => exact ⟨nofun, nofun, nofun⟩
  | unheard h e => exact ⟨nofun, nofun, nofun⟩
  | @misheard before after a h b hb =>
    -- the byte that went wrong is the acknowledgement or the version behind it
    obtain ⟨rfl, hack⟩ | ⟨front, rfl, hbehind⟩ := List.cons_eq_append_iff.1 h
    · cases hack
      exact ⟨nofun, nofun, nofun⟩
    · obtain ⟨rfl, hversion⟩ | ⟨-, hversion⟩ := List.singleton_eq_append_iff.1 hbehind
      · cases hversion
        refine ⟨nofun, nofun, ?_⟩
        intro host board he
        cases he
        refine ⟨rfl, hb, tries, opening, ?_, rfl⟩
        rw [writes_append, hopening]
        rfl
      · cases hversion

theorem told_of_page (h : Accepted opts image) (hopening : writes opening = List.replicate tries [Protocol.sync])
    (hk : k < pageCount opts image) (hpage : Carries opts.responseDelay (pageAt opts image k).exchanges tail (.error e)) :
    Told opts image (callsUpTo opts image opening k ++ tail) e := by
  obtain ⟨cause, rfl, hfails⟩ | ⟨cause, step, rfl, rfl, hfails⟩ := carries_page_error hpage
  · refine ⟨?_, nofun, nofun⟩
    intro address cause' he
    cases he
    exact ⟨h.readsAs hk _ rfl, k, _, tail, stopped_of_payloads hopening hk hfails.payloads_eq, rfl, hfails⟩
  · have htail : payloads (acknowledged opts.responseDelay Protocol.setAddress
        (addressBytes (pageAt opts image k).address) ++ step) = [] := by
      rw [payloads_address, hfails.payloads_eq]
    refine ⟨nofun, ?_, nofun⟩
    intro address cause' he
    cases he
    exact ⟨h.readsAs hk _ rfl, k, _, step, stopped_of_payloads hopening hk htail, rfl, hfails⟩

/-- Whatever the link does, the error of an upload tells how far it got. An address in it is the first of a page;
the payloads written without an error are the pages below it, nothing happens on the link behind the step that
failed, and the cause is the error of that step. A version in it was read behind the acknowledgement of the
question for it, and nothing of the image was sent. -/
theorem failed_upload_tells_how_far (haccepted : refusal? opts image = none)
    (htalks : Talks (upload opts image) calls (.ok (.error e))) : Told opts image calls e := by
  have h := accepted_of_refusal? haccepted
  obtain ⟨attempts, hattempts, ⟨-, -, hr⟩ | ⟨-, late, rest, o, -, rfl, hr, hcarries⟩⟩ := talks_upload haccepted htalks
  · cases hr
    exact ⟨nofun, nofun, nofun⟩
  · cases hr
    have hopening : writes (attempts.flatten ++
        (Exchange.sync.calls opts.responseDelay ++ late.map (.received opts.responseDelay))) =
          List.replicate (attempts.length + 1) [Protocol.sync] := by
      rw [writes_append, writes_append, writes_attempts hattempts, Exchange.writes_calls, writes_late,
        List.replicate_succ']
      rfl
    obtain hversion | ⟨k, hk, last, rfl, hpage⟩ | ⟨last, hstart⟩ := carries_plan_error hcarries
    · exact told_of_version hopening hversion
    · rw [← callsUpTo_append]
      exact told_of_page h hopening hk hpage
    · obtain ⟨cause, rfl, hfails⟩ := commandFails_of_breaks hstart
      cases hfails <;> exact ⟨nofun, nofun, nofun⟩

/-- Two pages, where another byte comes in place of the acknowledgement of the second page's header: the first page
was written, and no more. -/
theorem failed_upload_tells_how_far_second_page :
    let opts : SessionOptions := ⟨0x200, 2, 5, 1, 0, true, false⟩
    let link : ScriptedLink := ⟨[.ok 0x0F, .ok 0x0E, .ok 1, .ok 0x0D, .ok 0x0C, .ok 0x0D, .ok 0x55], [], [], []⟩
    let e : SessionError := .atPage 0x202 (.unexpectedResponse Protocol.writePage 0x55)
    refusal? opts [0x00, 0xE0, 0x12] = none ∧
      ((upload opts [0x00, 0xE0, 0x12]).run ScriptedLink.handle link).1 = .ok (.error e) ∧
      ∃ calls, Talks (upload opts [0x00, 0xE0, 0x12]) calls (.ok (.error e)) ∧
        Told opts [0x00, 0xE0, 0x12] calls e ∧ payloads calls = [[0x00, 0xE0]] := by
  intro opts link e
  have haccepted : refusal? opts [0x00, 0xE0, 0x12] = none := by decide
  have hrun : ((upload opts [0x00, 0xE0, 0x12]).run ScriptedLink.handle link).1 = .ok (.error e) := by rfl
  obtain ⟨calls, htalks⟩ := talks_run ScriptedLink.answers (upload opts [0x00, 0xE0, 0x12]) link
  rw [hrun] at htalks
  have htold := failed_upload_tells_how_far haccepted htalks
  obtain ⟨-, k, before, step, hstopped, -⟩ := htold.atPage _ _ rfl
  have haddress : 0x202 = 0x200 + k * 2 := hstopped.address_eq
  obtain rfl : k = 1 := by omega
  exact ⟨haccepted, hrun, calls, htalks, htold, hstopped.payloads_eq⟩

end Session

end Chip8
