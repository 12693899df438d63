import Chip8.Proofs.Serial.Scripts
import Chip8.Serial.Device
import Mathlib.Data.List.Basic

/-!
# Bytes that cross a device

A program that uses a device as its link makes calls on it, and each of these makes calls on the port.
`history` keeps the two together, and forgets nothing that the device put into its trace (`trace_run`).

A call that is interrupted is made again as if it had moved nothing. If it did move something, a byte
that was sent is sent once more and a byte that was received is dropped. So bytes cross a device exactly
once just if no interrupted call moves one: that is the whole condition, for single sendings and for all
that is received in a run.
-/

namespace Chip8

/-- A call on a device: what was asked of it, its answer, and the calls it made on its port. -/
structure DeviceCall where
  op : LinkOp
  answer : Except Crash op.Answer
  port : List PortCall

/-- The byte that the call gave, if it gave one. -/
def DeviceCall.returned : DeviceCall → Bytes
  | ⟨.receive _, .ok (.ok b), _⟩ => [b]
  | _ => []

theorem DeviceCall.returned_receive (timeout : Int) (result : Except LinkError UInt8) (calls : List PortCall) :
    returned ⟨.receive timeout, .ok result, calls⟩ = result.toOption.toList := by
  cases result <;> rfl

namespace Device

variable {α : Type}

/-- The calls that one call on the device makes on the port. -/
def portCalls (d : Device) : LinkOp → List PortCall
  | .receive timeout =>
    if d.isOpen then
      .timeout timeout (Port.nextError d.port.timeouts).1 ::
        if (Port.nextError d.port.timeouts).1 = none then Port.readCalls d.port.reads else []
    else []
  | .send bytes => if d.isOpen then Port.writeCalls d.port.writes bytes else []
  | .note _ | .pause _ => []

/-- The calls that a program makes on the device, up to a fault. -/
def history (d : Device) : Program Link α → List DeviceCall
  | .done _ | .halt _ => []
  | .call op next =>
    ⟨op, (handle op d).1, d.portCalls op⟩ ::
      match handle op d with
      | (.ok answer, d') => d'.history (next answer)
      | (.error _, _) => []

def portHistory (d : Device) (p : Program Link α) : List PortCall := (d.history p).flatMap DeviceCall.port

/-! ### What one call does -/

section Call

variable {d : Device}

theorem exists_debugNoted (d : Device) (line : Bytes) : ∃ log, d.debugNoted line = { d with log := log } := by
  unfold debugNoted
  split
  · exact ⟨_, rfl⟩
  · exact ⟨d.log, rfl⟩

theorem send_of_open (hopen : d.isOpen = true) (bytes : Bytes) : ∃ log, d.send bytes =
    ((Port.writeAll d.name d.port.writes bytes).result,
      { d with
        port := { d.port with writes := (Port.writeAll d.name d.port.writes bytes).rest }
        trace := d.trace ++ (Port.writeAll d.name d.port.writes bytes).calls
        log := log }) := by
  obtain ⟨log, hlog⟩ := exists_debugNoted d (sendingNote bytes)
  refine ⟨log, ?_⟩
  rw [send, hlog]
  by_cases hbytes : bytes = []
  · simp [hbytes, Port.writeAll_nil]
  · simp [hbytes, hopen]

theorem send_of_closed (hclosed : d.isOpen = false) (bytes : Bytes) : ∃ result log,
    d.send bytes = (result, { d with log := log }) ∧ (bytes ≠ [] → result = .error .portNotOpen) := by
  obtain ⟨log, hlog⟩ := exists_debugNoted d (sendingNote bytes)
  rw [send, hlog]
  by_cases hbytes : bytes = []
  · exact ⟨.ok (.ok ()), log, by simp [hbytes], fun h => absurd hbytes h⟩
  · exact ⟨.error .portNotOpen, log, by simp [hbytes, hclosed], fun _ => rfl⟩

theorem receive_of_closed (hclosed : d.isOpen = false) (timeout : Int) :
    d.receive timeout = (.error .portNotOpen, d) := by
  simp [receive, hclosed]

theorem receive_of_refused (hopen : d.isOpen = true) {e : PortError}
    (he : (Port.nextError d.port.timeouts).1 = some e) (timeout : Int) : d.receive timeout =
      (.ok (.error (.port e)),
        { d with
          port := { d.port with timeouts := (Port.nextError d.port.timeouts).2 }
          trace := d.trace ++ [.timeout timeout] }) := by
  simp [receive, hopen, he]

theorem receive_of_open (hopen : d.isOpen = true) (hnone : (Port.nextError d.port.timeouts).1 = none) (timeout : Int) :
    ∃ log, d.receive timeout =
      (.ok (Port.readByte timeout d.port.reads).result,
        { d with
          port := { d.port with
            timeouts := (Port.nextError d.port.timeouts).2
            reads := (Port.readByte timeout d.port.reads).rest }
          trace := d.trace ++ .timeout timeout :: (Port.readByte timeout d.port.reads).calls
          log := log }) := by
  cases hresult : (Port.readByte timeout d.port.reads).result with
  | error e => exact ⟨d.log, by simp [receive, hopen, hnone, hresult]⟩
  | ok b =>
    obtain ⟨log, hlog⟩ := exists_debugNoted
      { d with
        port := { d.port with
          timeouts := (Port.nextError d.port.timeouts).2
          reads := (Port.readByte timeout d.port.reads).rest }
        trace := d.trace ++ .timeout timeout :: (Port.readByte timeout d.port.reads).calls } (receivedNote b)
    refine ⟨log, ?_⟩
    rw [← hlog]
    simp [receive, hopen, hnone, hresult]

theorem portCalls_send_of_open (hopen : d.isOpen = true) (bytes : Bytes) :
    d.portCalls (.send bytes) = Port.writeCalls d.port.writes bytes := by
  simp [portCalls, hopen]

theorem portCalls_receive_of_open (hopen : d.isOpen = true) (hnone : (Port.nextError d.port.timeouts).1 = none)
    (timeout : Int) :
    d.portCalls (.receive timeout) = .timeout timeout none :: Port.readCalls d.port.reads := by
  simp [portCalls, hopen, hnone]

end Call

theorem writeResults_receive (d : Device) (timeout : Int) : writeResults (d.portCalls (.receive timeout)) = [] := by
  rw [portCalls]
  split
  · split
    · exact Port.writeResults_readCalls d.port.reads
    · rfl
  · rfl

/-- What a call leaves of a device: its trace has the calls on the port, each of which has used up one result
of the port's script. -/
theorem exists_handle_eq (op : LinkOp) (d : Device) : ∃ reads timeouts log, reads <:+ d.port.reads ∧
    (handle op d).2 =
      { d with
        port := { d.port with
          reads := reads
          writes := d.port.writes.drop (writeResults (d.portCalls op)).length
          timeouts := timeouts }
        trace := d.trace ++ (d.portCalls op).map PortCall.event
        log := log } := by
  cases op with
  | receive timeout =>
    rw [writeResults_receive, List.length_nil, List.drop_zero]
    rcases Bool.eq_false_or_eq_true d.isOpen with hopen | hclosed
    · cases herror : (Port.nextError d.port.timeouts).1 with
      | some e =>
        have hcalls : d.portCalls (.receive timeout) = [.timeout timeout (some e)] := by simp [portCalls, hopen, herror]
        refine ⟨d.port.reads, (Port.nextError d.port.timeouts).2, d.log, List.suffix_refl _, ?_⟩
        rw [hcalls, handle, receive_of_refused hopen herror]
        rfl
      | none =>
        obtain ⟨log, hreceive⟩ := receive_of_open hopen herror timeout
        refine ⟨(Port.readByte timeout d.port.reads).rest, (Port.nextError d.port.timeouts).2, log,
          Port.rest_readByte_suffix d.port.reads, ?_⟩
        rw [portCalls_receive_of_open hopen herror, List.map_cons, ← Port.calls_readByte, handle, hreceive]
        rfl
    · have hcalls : d.portCalls (.receive timeout) = [] := by simp [portCalls, hclosed]
      refine ⟨d.port.reads, d.port.timeouts, d.log, List.suffix_refl _, ?_⟩
      rw [hcalls, List.map_nil, List.append_nil, handle, receive_of_closed hclosed]
  | send bytes =>
    rcases Bool.eq_false_or_eq_true d.isOpen with hopen | hclosed
    · obtain ⟨log, hsend⟩ := send_of_open hopen bytes
      refine ⟨d.port.reads, d.port.timeouts, log, List.suffix_refl _, ?_⟩
      rw [portCalls_send_of_open hopen, ← Port.calls_writeAll, ← Port.rest_writeAll, handle, hsend]
    · have hcalls : d.portCalls (.send bytes) = [] := by simp [portCalls, hclosed]
      obtain ⟨result, log, hsend, -⟩ := send_of_closed hclosed bytes
      refine ⟨d.port.reads, d.port.timeouts, log, List.suffix_refl _, ?_⟩
      rw [hcalls, List.map_nil, List.append_nil, handle, hsend]
      rfl
  | note line =>
    refine ⟨d.port.reads, d.port.timeouts, (d.noted line).log, List.suffix_refl _, ?_⟩
    simp [handle, noted, portCalls]
  | pause time =>
    refine ⟨d.port.reads, d.port.timeouts, d.log, List.suffix_refl _, ?_⟩
    simp [handle, portCalls]

theorem trace_handle (op : LinkOp) (d : Device) :
    (handle op d).2.trace = d.trace ++ (d.portCalls op).map PortCall.event := by
  obtain ⟨reads, timeouts, log, -, h⟩ := exists_handle_eq op d
  rw [h]

theorem reads_handle_suffix (op : LinkOp) (d : Device) : (handle op d).2.port.reads <:+ d.port.reads := by
  obtain ⟨reads, timeouts, log, hreads, h⟩ := exists_handle_eq op d
  rw [h]
  exact hreads

theorem writes_handle (op : LinkOp) (d : Device) :
    (handle op d).2.port.writes = d.port.writes.drop (writeResults (d.portCalls op)).length := by
  obtain ⟨reads, timeouts, log, -, h⟩ := exists_handle_eq op d
  rw [h]

/-! ### A program runs over the device -/

theorem history_of_ok {d d' : Device} {op : LinkOp} {answer : op.Answer} (next : op.Answer → Program Link α)
    (h : handle op d = (.ok answer, d')) :
    d.history (.call op next) = ⟨op, .ok answer, d.portCalls op⟩ :: d'.history (next answer) := by
  rw [history, h]

theorem history_of_error {d d' : Device} {op : LinkOp} {crash : Crash} (next : op.Answer → Program Link α)
    (h : handle op d = (.error crash, d')) : d.history (.call op next) = [⟨op, .error crash, d.portCalls op⟩] := by
  rw [history, h]

theorem trace_run (p : Program Link α) (d : Device) :
    (p.run handle d).2.trace = d.trace ++ (d.portHistory p).map PortCall.event := by
  induction p generalizing d with
  | done a => simp [Program.run, portHistory, history]
  | halt crash => simp [Program.run, portHistory, history]
  | call op next ih =>
    have htrace := trace_handle op d
    cases hhandle : handle op d with
    | mk result d' =>
      rw [hhandle] at htrace
      cases result with
      | error crash =>
        simp only [Program.run, hhandle, portHistory, history_of_error next hhandle]
        simpa using htrace
      | ok answer =>
        simp only [Program.run, hhandle, portHistory, history_of_ok next hhandle]
        rw [ih, htrace]
        simp [portHistory]

/-- Every call of a run was made on a device that has come no further than its script. -/
theorem exists_of_mem_history {p : Program Link α} {d : Device} {c : DeviceCall} (hc : c ∈ d.history p) :
    ∃ d' : Device, d'.port.reads <:+ d.port.reads ∧ c = ⟨c.op, (handle c.op d').1, d'.portCalls c.op⟩ := by
  induction p generalizing d with
  | done a => cases hc
  | halt crash => cases hc
  | call op next ih =>
    have hreads := reads_handle_suffix op d
    rw [history, List.mem_cons] at hc
    obtain rfl | hrest := hc
    · exact ⟨d, List.suffix_refl _, rfl⟩
    · cases hhandle : handle op d with
      | mk result d' =>
        rw [hhandle] at hrest hreads
        cases result with
        | error crash => cases hrest
        | ok answer =>
          obtain ⟨d'', hsuffix, hcall⟩ := ih answer hrest
          exact ⟨d'', hsuffix.trans hreads, hcall⟩

/-! ### What crosses -/

theorem taken_of_sent {d : Device} {bytes : Bytes} (h : (handle (.send bytes) d).1 = .ok (.ok ())) :
    (uninterrupted (d.portCalls (.send bytes))).flatMap PortCall.taken = bytes := by
  cases hopen : d.isOpen with
  | false =>
    obtain ⟨result, log, hsend, hcrash⟩ := send_of_closed hopen bytes
    simp only [handle, hsend] at h
    by_cases hbytes : bytes = []
    · simp [portCalls, hopen, uninterrupted, hbytes]
    · rw [hcrash hbytes] at h
      cases h
  | true =>
    obtain ⟨log, hsend⟩ := send_of_open hopen bytes
    simp only [handle, hsend] at h
    rw [portCalls_send_of_open hopen]
    exact Port.taken_writeCalls h

theorem delivered_of_call {d : Device} (hreads : ∀ r ∈ d.port.reads, ∀ e, r.error = some e → e.isInterruption = true)
    (op : LinkOp) : (uninterrupted (d.portCalls op)).flatMap PortCall.delivered =
      DeviceCall.returned ⟨op, (handle op d).1, d.portCalls op⟩ := by
  cases op with
  | receive timeout =>
    cases hopen : d.isOpen with
    | false => simp [handle, receive_of_closed hopen, portCalls, hopen, uninterrupted, DeviceCall.returned]
    | true =>
      cases herror : (Port.nextError d.port.timeouts).1 with
      | some e =>
        simp [handle, receive_of_refused hopen herror, portCalls, hopen, herror, uninterrupted,
          PortCall.isInterrupted, PortCall.delivered, DeviceCall.returned]
      | none =>
        obtain ⟨log, hreceive⟩ := receive_of_open hopen herror timeout
        simp only [handle, hreceive]
        refine Eq.trans ?_ (DeviceCall.returned_receive timeout _ _).symm
        rw [portCalls_receive_of_open hopen herror, ← Port.delivered_readCalls hreads]
        simp [uninterrupted, PortCall.isInterrupted, PortCall.delivered]
  | send bytes =>
    have hnone : ∀ c ∈ d.portCalls (.send bytes), c.delivered = [] := by
      rw [portCalls]
      split
      · exact Port.delivered_writeCalls d.port.writes bytes
      · simp
    exact List.flatMap_eq_nil_iff.2 fun c hc => hnone c (List.mem_filter.1 hc).1
  | note line => rfl
  | pause time => rfl

/-- Bytes cross a device once, and in order, just if no interrupted call moves any. -/
theorem bytes_cross_once_iff (d : Device) (p : Program Link α)
    (hreads : ∀ r ∈ d.port.reads, ∀ e, r.error = some e → e.isInterruption = true) :
    (p.run handle d).2.trace = d.trace ++ (d.portHistory p).map PortCall.event ∧
      (∀ bytes calls, ⟨.send bytes, .ok (.ok ()), calls⟩ ∈ d.history p →
        (uninterrupted calls).flatMap PortCall.taken = bytes ∧
          (calls.flatMap PortCall.taken = bytes ↔ ∀ c ∈ calls, c.isInterrupted = true → c.taken = [])) ∧
      (uninterrupted (d.portHistory p)).flatMap PortCall.delivered = (d.history p).flatMap DeviceCall.returned ∧
      ((d.portHistory p).flatMap PortCall.delivered = (d.history p).flatMap DeviceCall.returned ↔
        ∀ c ∈ d.portHistory p, c.isInterrupted = true → c.delivered = []) := by
  have hreturned : (uninterrupted (d.portHistory p)).flatMap PortCall.delivered =
      (d.history p).flatMap DeviceCall.returned := by
    rw [portHistory, uninterrupted, List.filter_flatMap, List.flatMap_assoc]
    refine List.flatMap_congr fun c hc => ?_
    obtain ⟨d', hsuffix, hd'⟩ := exists_of_mem_history hc
    have hdelivered := delivered_of_call (fun r hr => hreads r (hsuffix.subset hr)) c.op
    have hport : c.port = d'.portCalls c.op := congrArg DeviceCall.port hd'
    rw [← hd'] at hdelivered
    rw [hport]
    exact hdelivered
  refine ⟨trace_run p d, fun bytes calls hcall => ?_, hreturned, ?_⟩
  · obtain ⟨d', -, hd'⟩ := exists_of_mem_history hcall
    have hparts : .ok (.ok ()) = (handle (.send bytes) d').1 ∧ calls = d'.portCalls (.send bytes) := by
      simpa using hd'
    have htaken : (uninterrupted calls).flatMap PortCall.taken = bytes := by
      rw [hparts.2]
      exact taken_of_sent hparts.1.symm
    refine ⟨htaken, ?_⟩
    rw [← flatMap_eq_uninterrupted_iff, htaken]
  · rw [← hreturned]
    exact flatMap_eq_uninterrupted_iff PortCall.delivered (d.portHistory p)

/-- A device whose first write is short and whose second is interrupted, and that is interrupted once before a
byte comes. -/
theorem bytes_cross_once_retried :
    ∃ d : Device, d.port.writes = [⟨2, none⟩, ⟨0, some .interrupted⟩] ∧
      d.port.reads = [⟨none, some (.within (text "read") .interrupted)⟩, ⟨some 0x0F, none⟩] ∧
      ∃ calls, ⟨.send [0xAA, 0xBB, 0xCC], .ok (.ok ()), calls⟩ ∈
          d.history (Link.send [0xAA, 0xBB, 0xCC] >>= fun _ => Link.receive 5) ∧
        calls.length = 3 ∧ calls.flatMap PortCall.taken = [0xAA, 0xBB, 0xCC] ∧
        (d.portHistory (Link.send [0xAA, 0xBB, 0xCC] >>= fun _ => Link.receive 5)).flatMap PortCall.delivered = [0x0F] := by
  let d : Device :=
    ⟨text "tty0",
      ⟨[⟨none, some (.within (text "read") .interrupted)⟩, ⟨some 0x0F, none⟩], [⟨2, none⟩, ⟨0, some .interrupted⟩], [], []⟩,
      true, false, [], []⟩
  have hreads : ∀ r ∈ d.port.reads, ∀ e, r.error = some e → e.isInterruption = true := by
    simp [d, PortError.isInterruption]
  obtain ⟨-, hsent, -, hreturned⟩ :=
    bytes_cross_once_iff d (Link.send [0xAA, 0xBB, 0xCC] >>= fun _ => Link.receive 5) hreads
  refine ⟨d, rfl, rfl, _, .head _, rfl, (hsent _ _ (.head _)).2.2 (by decide), hreturned.2 (by decide)⟩

/-- A byte that is moved by an interrupted call is sent twice, or is lost: the board gets `AA AA BB`, and no
one gets the `0F` that came from it. -/
theorem interrupted_bytes_cross_twice_or_never :
    let d : Device :=
      ⟨text "tty0", ⟨[⟨some 0x0F, some .interrupted⟩], [⟨1, some .interrupted⟩], [], []⟩, true, false, [], []⟩
    let p := Link.send [0xAA, 0xBB] >>= fun _ => Link.receive 5
    (∃ calls, ⟨.send [0xAA, 0xBB], .ok (.ok ()), calls⟩ ∈ d.history p ∧
        calls.flatMap PortCall.taken = [0xAA, 0xAA, 0xBB]) ∧
      (d.portHistory p).flatMap PortCall.delivered = [0x0F] ∧ (d.history p).flatMap DeviceCall.returned = [] :=
  ⟨⟨_, .head _, rfl⟩, rfl, rfl⟩

end Device

end Chip8
