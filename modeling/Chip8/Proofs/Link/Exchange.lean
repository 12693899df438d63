import Chip8.Link.Session
import Chip8.Proofs.Link.Calls

/-!
# Exchanges

A session talks to the board in exchanges: bytes are sent, and then certain bytes have to come back, in
order and without another in between. An exchange breaks at the first thing that goes otherwise, and a
session that carries out a list of exchanges makes no call behind a break. `Carries` says what the calls
of such a list are, whole or broken, together with the outcome that the session then reports; `Performs`
says of a program that all its runs are of this kind.

Every part of a session behind the synchronization performs a list that is known beforehand: a command
and its acknowledgement, the version question with its two answers, a page as its address, its count and
its bytes. The rest of the theory reaches the code of these parts only through the `performs` statements.
-/

namespace Chip8

namespace Session

/-- A byte that has to come, and what is reported if another comes in its place. -/
structure Awaited where
  byte : UInt8
  fault : UInt8 → SessionError

/-- The calls in which awaited bytes come. -/
def arrivals (delay : Int) (awaited : List Awaited) : List LinkCall :=
  awaited.map fun a => .received delay (.ok a.byte)

/-- Bytes to send, the bytes that have to come back, and what a failure is reported as. -/
structure Exchange where
  bytes : Bytes
  awaited : List Awaited
  context : SessionError → SessionError

namespace Exchange

/-- The calls of an exchange in which all goes well. -/
def calls (delay : Int) (x : Exchange) : List LinkCall :=
  .sent x.bytes (.ok ()) :: arrivals delay x.awaited

/-- The exchange stops with these calls and this report: the bytes could not be sent, a byte did not
come, or another one came. -/
inductive Breaks (delay : Int) (x : Exchange) : List LinkCall → SessionError → Prop
  | unsent (e : LinkError) : Breaks delay x [.sent x.bytes (.error e)] (x.context (.link e))
  | unheard {before after : List Awaited} {a : Awaited} (h : x.awaited = before ++ a :: after) (e : LinkError) :
      Breaks delay x (.sent x.bytes (.ok ()) :: (arrivals delay before ++ [.received delay (.error e)]))
        (x.context (.link e))
  | misheard {before after : List Awaited} {a : Awaited} (h : x.awaited = before ++ a :: after) {b : UInt8}
      (hb : b ≠ a.byte) :
      Breaks delay x (.sent x.bytes (.ok ()) :: (arrivals delay before ++ [.received delay (.ok b)]))
        (x.context (a.fault b))

/-- The exchange of a command without a response of its own. -/
def ofCommand (command : UInt8) (arguments : Bytes) (context : SessionError → SessionError) : Exchange :=
  ⟨command :: arguments, [⟨Protocol.ack command, .unexpectedResponse command⟩], context⟩

/-- The exchange with its failures reported under one more heading. -/
def within (f : SessionError → SessionError) (x : Exchange) : Exchange := { x with context := f ∘ x.context }

theorem Breaks.within {delay : Int} {x : Exchange} {calls : List LinkCall} {e : SessionError}
    (h : x.Breaks delay calls e) (f : SessionError → SessionError) : (x.within f).Breaks delay calls (f e) := by
  cases h with
  | unsent e => exact .unsent e
  | unheard h e => exact .unheard (x := x.within f) h e
  | misheard h hb => exact .misheard (x := x.within f) h hb

theorem Breaks.extend {delay : Int} {x : Exchange} {calls : List LinkCall} {e : SessionError}
    (h : x.Breaks delay calls e) (more : List Awaited) :
    ({ x with awaited := x.awaited ++ more } : Exchange).Breaks delay calls e := by
  have hmore {before after : List Awaited} {a : Awaited} (ha : x.awaited = before ++ a :: after) :
      x.awaited ++ more = before ++ a :: (after ++ more) := by simp [ha]
  cases h with
  | unsent e => exact .unsent e
  | unheard ha e => exact .unheard (x := ⟨x.bytes, x.awaited ++ more, x.context⟩) (hmore ha) e
  | misheard ha hb => exact .misheard (x := ⟨x.bytes, x.awaited ++ more, x.context⟩) (hmore ha) hb

end Exchange

/-- The calls and the outcome of carrying out exchanges in order up to the first that breaks. -/
inductive Carries (delay : Int) : List Exchange → List LinkCall → Outcome → Prop
  | nil : Carries delay [] [] (.ok ())
  | whole {x : Exchange} {xs : List Exchange} {calls : List LinkCall} {o : Outcome} (h : Carries delay xs calls o) :
      Carries delay (x :: xs) (x.calls delay ++ calls) o
  | broken {x : Exchange} {xs : List Exchange} {calls : List LinkCall} {e : SessionError}
      (h : x.Breaks delay calls e) : Carries delay (x :: xs) calls (.error e)

namespace Carries

variable {delay : Int} {xs ys : List Exchange} {calls more : List LinkCall} {o : Outcome}

theorem within (h : Carries delay xs calls o) (f : SessionError → SessionError) :
    Carries delay (xs.map (Exchange.within f)) calls (o.mapError f) := by
  induction h with
  | nil => exact .nil
  | whole _ ih => exact .whole ih
  | broken h => exact .broken (h.within f)

theorem append (h : Carries delay xs calls (.ok ())) (h' : Carries delay ys more o) :
    Carries delay (xs ++ ys) (calls ++ more) o := by
  generalize ho : (Except.ok () : Outcome) = done at h
  induction h with
  | nil => exact h'
  | whole _ ih =>
    rw [List.append_assoc]
    exact .whole (ih ho)
  | broken _ => cases ho

theorem append_error {e : SessionError} (h : Carries delay xs calls (.error e)) :
    Carries delay (xs ++ ys) calls (.error e) := by
  generalize ho : (Except.error e : Outcome) = done at h
  induction h with
  | nil => cases ho
  | whole _ ih => exact .whole (ih ho)
  | broken h =>
    cases ho
    exact .broken h

/-- Exchanges are carried out up to their end, or up to one of them that breaks. -/
theorem cases_of (h : Carries delay xs calls o) :
    (o = .ok () ∧ calls = xs.flatMap (Exchange.calls delay)) ∨
      ∃ done x rest last e, xs = done ++ x :: rest ∧ x.Breaks delay last e ∧ o = .error e ∧
        calls = done.flatMap (Exchange.calls delay) ++ last := by
  induction h with
  | nil => exact .inl ⟨rfl, rfl⟩
  | @whole x xs calls o _ ih =>
    obtain ⟨ho, rfl⟩ | ⟨done, y, rest, last, e, rfl, hy, ho, rfl⟩ := ih
    · exact .inl ⟨ho, rfl⟩
    · exact .inr ⟨x :: done, y, rest, last, e, rfl, hy, ho, by simp⟩
  | @broken x xs calls e h => exact .inr ⟨[], x, xs, calls, e, rfl, h, rfl, rfl⟩

theorem error_append {e : SessionError} (h : Carries delay (xs ++ ys) calls (.error e)) :
    Carries delay xs calls (.error e) ∨
      ∃ more, calls = xs.flatMap (Exchange.calls delay) ++ more ∧ Carries delay ys more (.error e) := by
  induction xs generalizing calls with
  | nil => exact .inr ⟨calls, rfl, h⟩
  | cons x xs ih =>
    cases h with
    | whole h =>
      obtain hxs | ⟨more, rfl, hys⟩ := ih h
      · exact .inl (.whole hxs)
      · exact .inr ⟨more, by rw [List.flatMap_cons, List.append_assoc], hys⟩
    | broken h => exact .inl (.broken h)

/-- What breaks in numbered groups breaks in one of them, behind the whole of those before it. -/
theorem error_flatMap_range {f : Nat → List Exchange} {n : Nat} {e : SessionError}
    (h : Carries delay ((List.range n).flatMap f) calls (.error e)) :
    ∃ k, k < n ∧ ∃ last, calls = ((List.range k).flatMap f).flatMap (Exchange.calls delay) ++ last ∧
      Carries delay (f k) last (.error e) := by
  induction n with
  | zero => cases h
  | succ n ih =>
    rw [List.range_succ, List.flatMap_append, List.flatMap_singleton] at h
    obtain hfirst | ⟨last, rfl, hlast⟩ := h.error_append
    · obtain ⟨k, hk, hbreak⟩ := ih hfirst
      exact ⟨k, Nat.lt_succ_of_lt hk, hbreak⟩
    · exact ⟨n, Nat.lt_succ_self n, last, rfl, hlast⟩

end Carries

/-- Every run of the program carries out the exchanges, and none ends in a fault. -/
def Performs (delay : Int) (p : Program Link Outcome) (xs : List Exchange) : Prop :=
  ∀ calls r, Talks p calls r → ∃ o, r = .ok o ∧ Carries delay xs calls o

namespace Performs

variable {delay : Int} {p : Program Link Outcome} {xs ys : List Exchange}

theorem done_ok : Performs delay (.done (.ok ())) [] := by
  intro calls r h
  obtain ⟨rfl, rfl⟩ := talks_done.1 h
  exact ⟨_, rfl, .nil⟩

/-- One program after the other, where a failure of the first is reported under the heading `f`. -/
theorem bind {k : Outcome → Program Link Outcome} (hp : Performs delay p xs) (f : SessionError → SessionError)
    (herror : ∀ e, k (.error e) = .done (.error (f e))) (hok : Performs delay (k (.ok ())) ys) :
    Performs delay (p >>= k) (xs.map (Exchange.within f) ++ ys) := by
  intro calls r h
  obtain ⟨crash, -, hcrash⟩ | ⟨o, first, rest, rfl, hdone, hnext⟩ := talks_bind h
  · obtain ⟨o, ho, -⟩ := hp calls _ hcrash
    cases ho
  · obtain ⟨_, ho, hfirst⟩ := hp first _ hdone
    cases ho
    cases o with
    | error e =>
      rw [herror] at hnext
      obtain ⟨rfl, rfl⟩ := talks_done.1 hnext
      rw [List.append_nil]
      exact ⟨_, rfl, (hfirst.within f).append_error⟩
    | ok _ =>
      obtain ⟨o, rfl, hrest⟩ := hok rest r hnext
      exact ⟨o, rfl, (hfirst.within f).append hrest⟩

theorem followed {k : Outcome → Program Link Outcome} (hp : Performs delay p xs)
    (herror : ∀ e, k (.error e) = .done (.error e)) (hok : Performs delay (k (.ok ())) ys) :
    Performs delay (p >>= k) (xs ++ ys) := by
  have h := hp.bind id herror hok
  rwa [show xs.map (Exchange.within id) = xs from List.map_id xs] at h

theorem note {line : Bytes} {k : Unit → Program Link Outcome} (h : Performs delay (k ()) xs) :
    Performs delay (Link.note line >>= k) xs :=
  fun calls r htalks => h calls r (talks_note_bind.1 htalks)

end Performs

variable (opts : SessionOptions)

theorem talks_debugNote_bind {α : Type} {line : Bytes} {k : Unit → Program Link α} {calls : List LinkCall}
    {r : Except Crash α} (h : Talks (debugNote opts line >>= k) calls r) : Talks (k ()) calls r := by
  unfold debugNote at h
  split at h
  · exact talks_note_bind.1 h
  · exact h

/-! ### Commands -/

theorem talks_awaitAck {command : UInt8} {calls : List LinkCall} {r : Except Crash Outcome}
    (h : Talks (awaitAck opts command) calls r) :
    (∃ e, calls = [.received opts.responseDelay (.error e)] ∧ r = .ok (.error (.link e))) ∨
      (∃ b, b ≠ Protocol.ack command ∧ calls = [.received opts.responseDelay (.ok b)] ∧
        r = .ok (.error (.unexpectedResponse command b))) ∨
      (calls = [.received opts.responseDelay (.ok (Protocol.ack command))] ∧ r = .ok (.ok ())) := by
  obtain ⟨result, rest, rfl, hrest⟩ := talks_receive_bind.1 h
  cases result with
  | error e =>
    obtain ⟨rfl, rfl⟩ := talks_pure.1 hrest
    exact .inl ⟨e, rfl, rfl⟩
  | ok b =>
    by_cases hb : b = Protocol.ack command
    · simp only [hb, if_true] at hrest
      obtain ⟨rfl, rfl⟩ := talks_pure.1 hrest
      exact .inr (.inr ⟨by rw [hb], rfl⟩)
    · simp only [hb, if_false] at hrest
      obtain ⟨rfl, rfl⟩ := talks_pure.1 hrest
      exact .inr (.inl ⟨b, hb, rfl, rfl⟩)

theorem talks_readResponse {count : Nat} {soFar : Bytes} {calls : List LinkCall} {r : Except Crash (Bytes × Outcome)}
    (h : Talks (readResponse opts count soFar) calls r) :
    (∃ bytes, bytes.length = count ∧ calls = bytes.map (fun b => .received opts.responseDelay (.ok b)) ∧
        r = .ok (soFar ++ bytes, .ok ())) ∨
      ∃ bytes e, bytes.length < count ∧
        calls = bytes.map (fun b => .received opts.responseDelay (.ok b)) ++ [.received opts.responseDelay (.error e)] ∧
        r = .ok (soFar ++ bytes, .error (.link e)) := by
  induction count generalizing soFar calls with
  | zero =>
    obtain ⟨rfl, rfl⟩ := talks_done.1 h
    exact .inl ⟨[], rfl, rfl, by rw [List.append_nil]⟩
  | succ count ih =>
    obtain ⟨result, rest, rfl, hrest⟩ := talks_receive_bind.1 h
    cases result with
    | error e =>
      obtain ⟨rfl, rfl⟩ := talks_pure.1 hrest
      exact .inr ⟨[], e, Nat.succ_pos count, rfl, by rw [List.append_nil]⟩
    | ok b =>
      obtain ⟨bytes, hlength, rfl, rfl⟩ | ⟨bytes, e, hlength, rfl, rfl⟩ := ih hrest
      · exact .inl ⟨b :: bytes, by simp [hlength], rfl, by simp⟩
      · exact .inr ⟨b :: bytes, e, by simpa using hlength, rfl, by simp⟩

/-- A complete command breaks, or is acknowledged and its response is read. -/
theorem talks_fixedCommand {command : UInt8} {arguments : Bytes} {expected : Int}
    (hcomplete : isComplete (command :: arguments) = true) (hexpected : 0 ≤ expected ∧ expected ≤ maxExpected)
    {calls : List LinkCall} {r : Except Crash (Bytes × Outcome)}
    (h : Talks (fixedCommand opts (command :: arguments) expected) calls r) :
    (∃ e, r = .ok ([], .error e) ∧ (Exchange.ofCommand command arguments id).Breaks opts.responseDelay calls e) ∨
      ∃ rest, calls = (Exchange.ofCommand command arguments id).calls opts.responseDelay ++ rest ∧
        Talks (readResponse opts expected.toNat []) rest r := by
  have hrange : ¬(expected < 0 ∨ expected > maxExpected) := by omega
  simp only [fixedCommand, hcomplete, not_true_eq_false, if_false, hrange] at h
  obtain ⟨result, rest, rfl, hsent⟩ := talks_send_bind.1 (talks_debugNote_bind opts h)
  cases result with
  | error e =>
    obtain ⟨rfl, rfl⟩ := talks_pure.1 hsent
    exact .inl ⟨_, rfl, .unsent e⟩
  | ok _ =>
    obtain ⟨crash, -, hack⟩ | ⟨o, first, rest, rfl, hack, hnext⟩ := talks_bind hsent
    · obtain ⟨e, -, hr⟩ | ⟨b, -, -, hr⟩ | ⟨-, hr⟩ := talks_awaitAck opts hack <;> cases hr
    · obtain ⟨e, rfl, ho⟩ | ⟨b, hb, rfl, ho⟩ | ⟨rfl, ho⟩ := talks_awaitAck opts hack <;> cases ho
      · obtain ⟨rfl, rfl⟩ := talks_pure.1 hnext
        exact .inl ⟨_, rfl, .unheard (x := .ofCommand command arguments id) (List.nil_append _).symm e⟩
      · obtain ⟨rfl, rfl⟩ := talks_pure.1 hnext
        exact .inl ⟨_, rfl, .misheard (x := .ofCommand command arguments id) (List.nil_append _).symm hb⟩
      · exact .inr ⟨rest, rfl, hnext⟩

/-- A complete command without a response, and what follows once it is acknowledged. -/
theorem performs_fixedCommand_bind {command : UInt8} {arguments : Bytes} {ys : List Exchange}
    {k : Bytes × Outcome → Program Link Outcome} (hcomplete : isComplete (command :: arguments) = true)
    (f : SessionError → SessionError) (herror : ∀ response e, k (response, .error e) = .done (.error (f e)))
    (hok : Performs opts.responseDelay (k ([], .ok ())) ys) :
    Performs opts.responseDelay (fixedCommand opts (command :: arguments) 0 >>= k)
      (.ofCommand command arguments f :: ys) := by
  have hexpected : (0 : Int) ≤ 0 ∧ (0 : Int) ≤ maxExpected := by decide
  intro calls r h
  obtain ⟨crash, -, hcrash⟩ | ⟨⟨response, o⟩, first, rest, rfl, hdone, hnext⟩ := talks_bind h
  · obtain ⟨e, hr, -⟩ | ⟨rest, -, hread⟩ := talks_fixedCommand opts hcomplete hexpected hcrash
    · cases hr
    · cases (talks_done.1 hread).2
  · obtain ⟨e, hr, hbreaks⟩ | ⟨more, rfl, hread⟩ := talks_fixedCommand opts hcomplete hexpected hdone
    · cases hr
      rw [herror] at hnext
      obtain ⟨rfl, rfl⟩ := talks_done.1 hnext
      rw [List.append_nil]
      exact ⟨_, rfl, .broken (hbreaks.within f)⟩
    · obtain ⟨rfl, hr⟩ := talks_done.1 hread
      cases hr
      obtain ⟨o, rfl, hcarries⟩ := hok rest r hnext
      rw [List.append_nil]
      exact ⟨o, rfl, .whole hcarries⟩

theorem performs_command {command : UInt8} (hcommand : Protocol.argumentCount? command = some 0) :
    Performs opts.responseDelay (Session.command opts command) [.ofCommand command [] id] := by
  refine performs_fixedCommand_bind opts ?_ id (fun _ _ => rfl) .done_ok
  simp [isComplete, hcommand]

theorem performs_sendAddress (address : Nat) :
    Performs opts.responseDelay (sendAddress opts address)
      [.ofCommand Protocol.setAddress [(address / 256).toUInt8, address.toUInt8] (.atAddress address)] :=
  performs_fixedCommand_bind opts rfl _ (fun _ _ => rfl) .done_ok

theorem performs_countedSend_of_count {command count : UInt8} {arguments payload : Bytes}
    (hcomplete : isComplete (command :: arguments) = true) (hlast : (command :: arguments).getLast? = some count)
    (hcount : payload.length = count.toNat) :
    Performs opts.responseDelay (countedSend opts (command :: arguments) payload)
      [.ofCommand command arguments id, ⟨payload, [], id⟩] := by
  simp only [countedSend, hlast, hcount, ne_eq, not_true_eq_false, if_false]
  refine performs_fixedCommand_bind opts hcomplete id (fun _ _ => rfl) fun calls r h => ?_
  obtain ⟨result, rest, rfl, hsent⟩ := talks_send_bind.1 (talks_debugNote_bind opts h)
  cases result with
  | error e =>
    obtain ⟨rfl, rfl⟩ := talks_pure.1 hsent
    exact ⟨_, rfl, .broken (.unsent e)⟩
  | ok _ =>
    obtain ⟨rfl, rfl⟩ := talks_pure.1 hsent
    exact ⟨_, rfl, .whole .nil⟩

theorem performs_countedSend {command : UInt8} {payload : Bytes}
    (hcommand : Protocol.argumentCount? command = some 1) (hcount : payload.length < 256) :
    Performs opts.responseDelay (countedSend opts [command, payload.length.toUInt8] payload)
      [.ofCommand command [payload.length.toUInt8] id, ⟨payload, [], id⟩] := by
  apply performs_countedSend_of_count opts
  · simp [isComplete, hcommand]
  · rfl
  · simp [Nat.mod_eq_of_lt hcount]

/-- The question for the version, with its two answers. -/
def Exchange.version : Exchange :=
  { Exchange.ofCommand Protocol.getVersion [] id with
    awaited := [⟨Protocol.ack Protocol.getVersion, .unexpectedResponse Protocol.getVersion⟩] ++
      [⟨Protocol.version, .version Protocol.version⟩] }

theorem performs_checkVersion : Performs opts.responseDelay (checkVersion opts) [.version] := by
  have hexpected : (0 : Int) ≤ 1 ∧ (1 : Int) ≤ maxExpected := by decide
  intro calls r h
  obtain ⟨crash, -, hcrash⟩ | ⟨⟨response, o⟩, first, rest, rfl, hdone, hnext⟩ := talks_bind h
  · obtain ⟨e, hr, -⟩ | ⟨rest, -, hread⟩ := talks_fixedCommand opts rfl hexpected hcrash
    · cases hr
    · obtain ⟨_, _, _, hr⟩ | ⟨_, _, _, _, hr⟩ := talks_readResponse opts hread <;> cases hr
  · obtain ⟨e, hr, hbreaks⟩ | ⟨more, rfl, hread⟩ := talks_fixedCommand opts rfl hexpected hdone
    · cases hr
      obtain ⟨rfl, rfl⟩ := talks_pure.1 hnext
      rw [List.append_nil]
      exact ⟨_, rfl, .broken (hbreaks.extend _)⟩
    · obtain ⟨bytes, hlength, rfl, hr⟩ | ⟨bytes, e, hlength, rfl, hr⟩ := talks_readResponse opts hread
      · obtain ⟨b, rfl⟩ := List.length_eq_one_iff.1 hlength
        cases hr
        by_cases hb : b = Protocol.version
        · subst hb
          obtain ⟨rfl, rfl⟩ := talks_pure.1 hnext
          exact ⟨_, rfl, .whole .nil⟩
        · simp only [List.nil_append, hb, if_false] at hnext
          obtain ⟨rfl, rfl⟩ := talks_pure.1 hnext
          exact ⟨_, rfl, .broken (.misheard (x := .version) rfl hb)⟩
      · obtain rfl : bytes = [] := List.eq_nil_of_length_eq_zero (by simpa using hlength)
        cases hr
        obtain ⟨rfl, rfl⟩ := talks_pure.1 hnext
        rw [List.append_nil]
        exact ⟨_, rfl, .broken (.unheard (x := .version) rfl e)⟩

end Session

end Chip8
