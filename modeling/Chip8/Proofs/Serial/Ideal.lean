import Chip8.Link.Session
import Chip8.Proofs.Requests
import Chip8.Proofs.Serial.Crossing

/-!
# A device and an ideal link

An ideal link is never interrupted and takes what it is given all at once. It fails where the port under
a device fails for good: the port has room for some number of bytes, and the sending that goes beyond them
gets the port's error. Whoever uses a device as a link cannot tell it from the ideal link of its port, nor
from the same device over a script that is interrupted more often and takes bytes in smaller parts.

Both are simulations. They compare a run over the device with a run over something else, call by call, and
the relation that is kept looks ahead: it is about the writes that the run over the device is still to
make, and about what is left of the script behind them. `run_simulates` is the induction along the run;
what remains is one step for each of the two.
-/

namespace Chip8

variable {α : Type}

namespace Device

/-! ### Simulations of a run over a device -/

/-- The script of writes as a run has it carried out: each result that the run uses up is replaced by what
really came of the write. Where a write was offered less than the script has room for, that is less. Writes
past the end of the script are added to it. -/
def writeScript (d : Device) (p : Program Link α) : List PortWrite :=
  writeResults (d.portHistory p) ++ d.port.writes.drop (writeResults (d.portHistory p)).length

theorem writeScript_of_prefix {d : Device} {p : Program Link α} (h : writeResults (d.portHistory p) <+: d.port.writes) :
    d.writeScript p = d.port.writes := List.prefix_iff_eq_append.1 h

theorem writeScript_of_ok {d d' : Device} {op : LinkOp} {answer : op.Answer} (next : op.Answer → Program Link α)
    (h : handle op d = (.ok answer, d')) :
    d.writeScript (.call op next) = writeResults (d.portCalls op) ++ d'.writeScript (next answer) := by
  have hwrites : d'.port.writes = d.port.writes.drop (writeResults (d.portCalls op)).length := by
    rw [← writes_handle, h]
  simp [writeScript, portHistory, history_of_ok next h, hwrites, List.drop_drop]

theorem writeScript_of_error {d d' : Device} {op : LinkOp} {crash : Crash} (next : op.Answer → Program Link α)
    (h : handle op d = (.error crash, d')) :
    d.writeScript (.call op next) = writeResults (d.portCalls op) ++ d'.port.writes := by
  have hwrites : d'.port.writes = d.port.writes.drop (writeResults (d.portCalls op)).length := by
    rw [← writes_handle, h]
  simp [writeScript, portHistory, history_of_error next h, hwrites]

/-- What each call keeps, along with its answer, the whole run keeps. The relation knows the calls that were
made on the port, and the writes that are to come. -/
theorem run_simulates {σ : Type} {handle' : Program.Handler Link σ}
    {R : List PortCall → List PortWrite → Device → σ → Prop}
    (hstep : ∀ op made tail d s, R made (writeResults (d.portCalls op) ++ tail) d s →
      (handle' op s).1 = (handle op d).1 ∧ R (made ++ d.portCalls op) tail (handle op d).2 (handle' op s).2)
    (p : Program Link α) (made : List PortCall) {d : Device} {s : σ} (h : R made (d.writeScript p) d s) :
    (p.run handle' s).1 = (p.run handle d).1 ∧ p.exchanges handle' s = p.exchanges handle d ∧
      R (made ++ d.portHistory p) (p.run handle d).2.port.writes (p.run handle d).2 (p.run handle' s).2 := by
  induction p generalizing made d s with
  | done a => exact ⟨rfl, rfl, by simpa [writeScript, portHistory, history, Program.run] using h⟩
  | halt crash => exact ⟨rfl, rfl, by simpa [writeScript, portHistory, history, Program.run] using h⟩
  | call op next ih =>
    obtain ⟨result, d₁, hhandle⟩ : ∃ result d₁, handle op d = (result, d₁) := ⟨_, _, rfl⟩
    obtain ⟨result', s₁, hhandle'⟩ : ∃ result' s₁, handle' op s = (result', s₁) := ⟨_, _, rfl⟩
    cases result with
    | error crash =>
      rw [writeScript_of_error next hhandle] at h
      obtain ⟨hanswer, hpost⟩ := hstep op made _ d s h
      rw [hhandle, hhandle'] at hanswer hpost
      obtain rfl : result' = .error crash := hanswer
      simp only [Program.run, Program.exchanges, hhandle, hhandle', portHistory, history_of_error next hhandle]
      exact ⟨trivial, trivial, by simpa using hpost⟩
    | ok answer =>
      rw [writeScript_of_ok next hhandle] at h
      obtain ⟨hanswer, hpost⟩ := hstep op made _ d s h
      rw [hhandle, hhandle'] at hanswer hpost
      obtain rfl : result' = .ok answer := hanswer
      obtain ⟨hresult, hexchanges, hend⟩ := ih answer _ hpost
      simp only [Program.run, Program.exchanges, hhandle, hhandle', portHistory, history_of_ok next hhandle]
      exact ⟨hresult, by rw [hexchanges], by simpa [portHistory] using hend⟩

/-! ### Another script -/

/-- Two open devices that differ in interruption and fragmentation of what is to come, and whose ports have
taken the same bytes. -/
structure Alike (tail : List PortWrite) (d d' : Device) : Prop where
  isOpen : d.isOpen = true
  isOpen' : d'.isOpen = true
  name : d'.name = d.name
  timeouts : d'.port.timeouts = d.port.timeouts
  reads : Interspersed d.port.reads d'.port.reads
  writes : Fragmented tail d'.port.writes
  taken : d'.trace.flatMap PortEvent.taken = d.trace.flatMap PortEvent.taken

theorem flatMap_taken_handle {op : LinkOp} {d d' : Device}
    (htrace : d'.trace.flatMap PortEvent.taken = d.trace.flatMap PortEvent.taken)
    (hcalls : (d'.portCalls op).flatMap PortCall.taken = (d.portCalls op).flatMap PortCall.taken) :
    (handle op d').2.trace.flatMap PortEvent.taken = (handle op d).2.trace.flatMap PortEvent.taken := by
  rw [trace_handle, trace_handle, List.flatMap_append, List.flatMap_append, flatMap_taken_event, flatMap_taken_event,
    htrace, hcalls]

theorem Alike.handle_receive {timeout : Int} {tail : List PortWrite} {d d' : Device} (h : Alike tail d d') :
    (handle (.receive timeout) d').1 = (handle (.receive timeout) d).1 ∧
      Alike tail (handle (.receive timeout) d).2 (handle (.receive timeout) d').2 := by
  have hnothing : ∀ d : Device, (d.portCalls (.receive timeout)).flatMap PortCall.taken = [] := fun d =>
    List.flatMap_eq_nil_iff.2 (taken_eq_nil_of_writeResults (d.writeResults_receive timeout))
  have htaken := flatMap_taken_handle h.taken ((hnothing d').trans (hnothing d).symm)
  cases herror : (Port.nextError d.port.timeouts).1 with
  | some e =>
    have herror' : (Port.nextError d'.port.timeouts).1 = some e := by rw [h.timeouts, herror]
    simp only [handle, receive_of_refused h.isOpen herror, receive_of_refused h.isOpen' herror'] at htaken ⊢
    exact ⟨trivial, h.isOpen, h.isOpen', h.name, by simp [h.timeouts], h.reads, h.writes, htaken⟩
  | none =>
    have herror' : (Port.nextError d'.port.timeouts).1 = none := by rw [h.timeouts, herror]
    obtain ⟨log, hreceive⟩ := receive_of_open h.isOpen herror timeout
    obtain ⟨log', hreceive'⟩ := receive_of_open h.isOpen' herror' timeout
    simp only [handle, hreceive, hreceive'] at htaken ⊢
    exact ⟨by rw [h.reads.result_readByte], h.isOpen, h.isOpen', h.name, by simp [h.timeouts],
      h.reads.rest_readByte, h.writes, htaken⟩

theorem Alike.handle_send {bytes : Bytes} {tail : List PortWrite} {d d' : Device}
    (h : Alike (writeResults (d.portCalls (.send bytes)) ++ tail) d d') :
    (handle (.send bytes) d').1 = (handle (.send bytes) d).1 ∧
      Alike tail (handle (.send bytes) d).2 (handle (.send bytes) d').2 := by
  have hwrites := h.writes
  rw [portCalls_send_of_open h.isOpen] at hwrites
  have hsent : Sends d.name bytes _ _ := sends_writeCalls d.port.writes bytes
  obtain ⟨calls', tail', hscript, hsends, hsame, htail⟩ := hwrites.exists_sends hsent
  have htaken : (handle (.send bytes) d').2.trace.flatMap PortEvent.taken =
      (handle (.send bytes) d).2.trace.flatMap PortEvent.taken := by
    refine flatMap_taken_handle h.taken ?_
    rw [portCalls_send_of_open h.isOpen, portCalls_send_of_open h.isOpen', hscript, hsends.writeCalls_eq, hsame]
  obtain ⟨hresult, hrest⟩ := hsends.writeAll_eq tail'
  rw [← hscript, ← h.name] at hresult hrest
  obtain ⟨log, hsend⟩ := send_of_open h.isOpen bytes
  obtain ⟨log', hsend'⟩ := send_of_open h.isOpen' bytes
  simp only [handle, hsend, hsend'] at htaken ⊢
  refine ⟨?_, h.isOpen, h.isOpen', h.name, h.timeouts, h.reads, ?_, htaken⟩
  · rw [hresult, h.name]
  · rw [hrest]
    exact htail

theorem Alike.step (op : LinkOp) {tail : List PortWrite} {d d' : Device}
    (h : Alike (writeResults (d.portCalls op) ++ tail) d d') :
    (handle op d').1 = (handle op d).1 ∧ Alike tail (handle op d).2 (handle op d').2 := by
  cases op with
  | receive timeout =>
    rw [writeResults_receive, List.nil_append] at h
    exact h.handle_receive
  | send bytes => exact h.handle_send
  | note line => exact ⟨rfl, { h with }⟩
  | pause time => exact ⟨rfl, h⟩

end Device

/-! ### The ideal link -/

/-- A stretch of what a port takes: the room up to a failure, how much the failing write still takes, and
what it gives. -/
structure Stretch where
  room : Nat
  last : Nat
  ending : Except Crash (Except LinkError Unit)

/-- A link that is never interrupted and takes all at once what there is room for. Behind the last stretch
there is room for everything. -/
structure IdealLink where
  timeouts : List (Option PortError)
  replies : List PortRead
  stretches : List Stretch
  delivered : Bytes

namespace IdealLink

def receive (l : IdealLink) (timeout : Int) : Except LinkError UInt8 × IdealLink :=
  let after := { l with timeouts := (Port.nextError l.timeouts).2 }
  match (Port.nextError l.timeouts).1 with
  | some e => (.error (.port e), after)
  | none =>
    match l.replies with
    | [] => (.error (.noResponse timeout), after)
    | r :: rest => (r.answer timeout, { after with replies := rest })

def send (l : IdealLink) (bytes : Bytes) : Except Crash (Except LinkError Unit) × IdealLink :=
  match l.stretches with
  | [] => (.ok (.ok ()), { l with delivered := l.delivered ++ bytes })
  | s :: rest =>
    if bytes.length ≤ s.room then
      (.ok (.ok ()),
        { l with stretches := { s with room := s.room - bytes.length } :: rest, delivered := l.delivered ++ bytes })
    else (s.ending, { l with stretches := rest, delivered := l.delivered ++ bytes.take (s.room + s.last) })

def handle : Program.Handler Link IdealLink
  | .receive timeout, l => (.ok (l.receive timeout).1, (l.receive timeout).2)
  | .send bytes, l => l.send bytes
  | .note _, l | .pause _, l => (.ok (), l)

end IdealLink

/-- The stretches with room for more bytes before them. -/
def Stretch.widen (n : Nat) : List Stretch → List Stretch
  | [] => []
  | s :: rest => { s with room := n + s.room } :: rest

/-- What the writes of a script come to, with interruption and fragmentation left out. -/
def Port.stretches (device : Bytes) : List PortWrite → List Stretch
  | [] => []
  | w :: rest =>
    if w.isInterrupted then stretches device rest
    else if w.GoesOn then Stretch.widen w.capacity.toNat (stretches device rest)
    else ⟨0, w.capacity.toNat, w.ending device⟩ :: stretches device rest

/-- The reads of a script that were not interrupted. -/
def Port.replies (script : List PortRead) : List PortRead := script.filter fun r => !r.isInterrupted

theorem IdealLink.send_nil (l : IdealLink) : l.send [] = (.ok (.ok ()), l) := by
  obtain ⟨timeouts, replies, stretches, delivered⟩ := l
  cases stretches <;> simp [IdealLink.send]

theorem IdealLink.send_widen (l : IdealLink) {n : Nat} {bytes : Bytes} (hn : n ≤ bytes.length) :
    { l with stretches := Stretch.widen n l.stretches }.send bytes =
      { l with delivered := l.delivered ++ bytes.take n }.send (bytes.drop n) := by
  obtain ⟨timeouts, replies, stretches, delivered⟩ := l
  cases stretches with
  | nil => simp [IdealLink.send, Stretch.widen]
  | cons s rest =>
    have hroom : bytes.length ≤ n + s.room ↔ (bytes.drop n).length ≤ s.room := by
      rw [List.length_drop]
      omega
    have hleft : n + s.room - bytes.length = s.room - (bytes.drop n).length := by
      rw [List.length_drop]
      omega
    have htake : bytes.take (n + s.room + s.last) = bytes.take n ++ (bytes.drop n).take (s.room + s.last) := by
      rw [Nat.add_assoc, List.take_add]
    simp [IdealLink.send, Stretch.widen, hroom, hleft, htake]

/-- The ideal link does what the calls on the port come to. -/
theorem Sends.send_eq {device bytes : Bytes} {calls : List PortCall} {r : Except Crash (Except LinkError Unit)}
    (h : Sends device bytes calls r) (tail : List PortWrite) (l : IdealLink) :
    { l with stretches := Port.stretches device (writeResults calls ++ tail) }.send bytes =
      (r, { l with
        stretches := Port.stretches device tail
        delivered := l.delivered ++ (uninterrupted calls).flatMap PortCall.taken }) := by
  induction h generalizing l with
  | done =>
    rw [IdealLink.send_nil]
    simp [uninterrupted]
  | @interrupted bytes w calls r hbytes hw hfit h ih =>
    have hc : (PortCall.write bytes w).isInterrupted = true := hw
    rw [writeResults_write, List.cons_append, Port.stretches, if_pos hw, ih, uninterrupted_cons_of_interrupted _ hc]
  | @goesOn bytes w calls r hbytes hw hfit h ih =>
    have hi := hw.not_isInterrupted
    have hc : (PortCall.write bytes w).isInterrupted = false := hi
    have hstretches : Port.stretches device (w :: (writeResults calls ++ tail)) =
        Stretch.widen w.capacity.toNat (Port.stretches device (writeResults calls ++ tail)) := by
      rw [Port.stretches, if_neg (by simp [hi]), if_pos hw]
    rw [writeResults_write, List.cons_append, hstretches]
    rw [IdealLink.send_widen { l with stretches := Port.stretches device (writeResults calls ++ tail) } (by omega)]
    rw [ih { l with delivered := l.delivered ++ bytes.take w.capacity.toNat }]
    rw [uninterrupted_cons_of_not_interrupted _ hc, List.flatMap_cons, List.append_assoc, PortCall.taken]
  | @ends bytes w hbytes hi hw hfit =>
    have hstretches : Port.stretches device (w :: tail) =
        ⟨0, w.capacity.toNat, w.ending device⟩ :: Port.stretches device tail := by
      rw [Port.stretches, if_neg (by simp [hi]), if_neg hw]
    simp [IdealLink.send, hstretches, hbytes, uninterrupted, PortCall.isInterrupted, hi, PortCall.taken]

theorem Port.replies_readByte (timeout : Int) (script : List PortRead) :
    (Port.replies script = [] ∧ (Port.readByte timeout script).result = .error (.noResponse timeout) ∧
        Port.replies (Port.readByte timeout script).rest = []) ∨
      ∃ r rest, Port.replies script = r :: rest ∧ (Port.readByte timeout script).result = r.answer timeout ∧
        Port.replies (Port.readByte timeout script).rest = rest := by
  induction script with
  | nil => exact .inl ⟨rfl, rfl, rfl⟩
  | cons r rest ih =>
    cases hr : r.isInterrupted with
    | true =>
      have hreplies : Port.replies (r :: rest) = Port.replies rest := by simp [Port.replies, hr]
      rw [hreplies, Port.readByte_interrupted rest hr]
      exact ih
    | false =>
      have hreplies : Port.replies (r :: rest) = r :: Port.replies rest := by simp [Port.replies, hr]
      rw [hreplies, Port.readByte_ends rest hr]
      exact .inr ⟨r, Port.replies rest, rfl, rfl, rfl⟩

namespace Device

/-- An open device and a link that is ideal for what is to come, where the link has delivered what the
calls that were not interrupted took. -/
structure Matches (made : List PortCall) (tail : List PortWrite) (d : Device) (l : IdealLink) : Prop where
  isOpen : d.isOpen = true
  timeouts : l.timeouts = d.port.timeouts
  replies : l.replies = Port.replies d.port.reads
  stretches : l.stretches = Port.stretches d.name tail
  delivered : l.delivered = (uninterrupted made).flatMap PortCall.taken

theorem Matches.handle_receive {timeout : Int} {made : List PortCall} {tail : List PortWrite} {d : Device}
    {l : IdealLink} (h : Matches made tail d l) :
    (IdealLink.handle (.receive timeout) l).1 = (handle (.receive timeout) d).1 ∧
      Matches (made ++ d.portCalls (.receive timeout)) tail (handle (.receive timeout) d).2
        (IdealLink.handle (.receive timeout) l).2 := by
  have hnothing := taken_eq_nil_of_writeResults (d.writeResults_receive timeout)
  have hdelivered : l.delivered =
      (uninterrupted (made ++ d.portCalls (.receive timeout))).flatMap PortCall.taken := by
    rw [uninterrupted_append, List.flatMap_append, h.delivered, List.self_eq_append_right, List.flatMap_eq_nil_iff]
    exact fun c hc => hnothing c (List.mem_filter.1 hc).1
  cases herror : (Port.nextError d.port.timeouts).1 with
  | some e =>
    have hreceive : l.receive timeout =
        (.error (.port e), { l with timeouts := (Port.nextError d.port.timeouts).2 }) := by
      simp [IdealLink.receive, h.timeouts, herror]
    simp only [handle, IdealLink.handle, receive_of_refused h.isOpen herror, hreceive]
    exact ⟨trivial, h.isOpen, rfl, h.replies, h.stretches, hdelivered⟩
  | none =>
    obtain ⟨log, hdevice⟩ := receive_of_open h.isOpen herror timeout
    obtain ⟨hreplies, hresult, hrest⟩ | ⟨r, rest, hreplies, hresult, hrest⟩ :=
      Port.replies_readByte timeout d.port.reads
    · have hreceive : l.receive timeout =
          (.error (.noResponse timeout), { l with timeouts := (Port.nextError d.port.timeouts).2 }) := by
        simp [IdealLink.receive, h.timeouts, herror, h.replies, hreplies]
      simp only [handle, IdealLink.handle, hdevice, hreceive, hresult]
      exact ⟨trivial, h.isOpen, rfl, h.replies.trans (hreplies.trans hrest.symm), h.stretches, hdelivered⟩
    · have hreceive : l.receive timeout =
          (r.answer timeout, { l with timeouts := (Port.nextError d.port.timeouts).2, replies := rest }) := by
        simp [IdealLink.receive, h.timeouts, herror, h.replies, hreplies]
      simp only [handle, IdealLink.handle, hdevice, hreceive, hresult]
      exact ⟨trivial, h.isOpen, rfl, hrest.symm, h.stretches, hdelivered⟩

theorem Matches.handle_send {bytes : Bytes} {made : List PortCall} {tail : List PortWrite} {d : Device}
    {l : IdealLink} (h : Matches made (writeResults (d.portCalls (.send bytes)) ++ tail) d l) :
    (IdealLink.handle (.send bytes) l).1 = (handle (.send bytes) d).1 ∧
      Matches (made ++ d.portCalls (.send bytes)) tail (handle (.send bytes) d).2
        (IdealLink.handle (.send bytes) l).2 := by
  have hsent : Sends d.name bytes _ _ := sends_writeCalls d.port.writes bytes
  have hideal := hsent.send_eq tail l
  rw [← portCalls_send_of_open h.isOpen, ← h.stretches] at hideal
  obtain ⟨log, hsend⟩ := send_of_open h.isOpen bytes
  simp only [handle, IdealLink.handle, hsend, hideal]
  refine ⟨trivial, h.isOpen, h.timeouts, h.replies, rfl, ?_⟩
  rw [uninterrupted_append, List.flatMap_append, h.delivered]

theorem Matches.step (op : LinkOp) {made : List PortCall} {tail : List PortWrite} {d : Device} {l : IdealLink}
    (h : Matches made (writeResults (d.portCalls op) ++ tail) d l) :
    (IdealLink.handle op l).1 = (handle op d).1 ∧
      Matches (made ++ d.portCalls op) tail (handle op d).2 (IdealLink.handle op l).2 := by
  cases op with
  | receive timeout =>
    rw [writeResults_receive, List.nil_append] at h
    exact h.handle_receive
  | send bytes => exact h.handle_send
  | note line =>
    have hdelivered : l.delivered = (uninterrupted (made ++ [])).flatMap PortCall.taken := by simp [h.delivered]
    exact ⟨rfl, h.isOpen, h.timeouts, h.replies, h.stretches, hdelivered⟩
  | pause time =>
    have hdelivered : l.delivered = (uninterrupted (made ++ [])).flatMap PortCall.taken := by simp [h.delivered]
    exact ⟨rfl, h.isOpen, h.timeouts, h.replies, h.stretches, hdelivered⟩

/-- The ideal link of a device, for a program that is run over it. -/
def ideal (d : Device) (p : Program Link α) : IdealLink :=
  ⟨d.port.timeouts, Port.replies d.port.reads, Port.stretches d.name (d.writeScript p), []⟩

/-- A device cannot be told from one whose port is interrupted more often and takes bytes in smaller parts, nor
from an ideal link. A session is one of the programs that cannot. -/
theorem run_indistinguishable (p : Program Link α) {d : Device} (hopen : d.isOpen = true) {reads : List PortRead}
    {writes : List PortWrite} (hreads : Interspersed d.port.reads reads)
    (hwrites : Fragmented (d.writeScript p) writes) :
    let d' := { d with port := { d.port with reads := reads, writes := writes } }
    ((p.run handle d').1 = (p.run handle d).1 ∧ p.exchanges handle d' = p.exchanges handle d ∧
        (p.run handle d').2.trace.flatMap PortEvent.taken = (p.run handle d).2.trace.flatMap PortEvent.taken) ∧
      (p.run IdealLink.handle (d.ideal p)).1 = (p.run handle d).1 ∧
        p.exchanges IdealLink.handle (d.ideal p) = p.exchanges handle d ∧
        (p.run IdealLink.handle (d.ideal p)).2.delivered =
          (uninterrupted (d.portHistory p)).flatMap PortCall.taken := by
  intro d'
  have halike : Alike (d.writeScript p) d d' := ⟨hopen, hopen, rfl, rfl, hreads, hwrites, rfl⟩
  have hmatches : Matches [] (d.writeScript p) d (d.ideal p) := ⟨hopen, rfl, rfl, rfl, rfl⟩
  obtain ⟨hresult, hexchanges, hend⟩ :=
    run_simulates (R := fun _ tail d d' => Alike tail d d') (fun op _ _ _ _ h => h.step op) p [] halike
  obtain ⟨hresult', hexchanges', hend'⟩ := run_simulates (R := Matches) (fun op _ _ _ _ h => h.step op) p [] hmatches
  exact ⟨⟨hresult, hexchanges, hend.taken⟩, hresult', hexchanges', hend'.delivered⟩

/-- An upload that is interrupted once before the first answer and again within the first address, which
is taken in two parts. -/
theorem run_indistinguishable_upload :
    let p := Session.upload ⟨0x200, 2, 5, 2, 0, true, false⟩ [0x00, 0xE0, 0x12]
    let d : Device :=
      ⟨text "tty0",
        ⟨[⟨none, none⟩, ⟨some 0x0F, none⟩, ⟨some 0x0F, none⟩, ⟨some 0x0E, none⟩, ⟨some 1, none⟩, ⟨some 0x0D, none⟩,
          ⟨some 0x0C, none⟩, ⟨some 0x0D, none⟩, ⟨some 0x0C, none⟩, ⟨some 0x0B, none⟩],
          [⟨1, none⟩, ⟨1, none⟩, ⟨1, none⟩, ⟨3, none⟩, ⟨2, none⟩, ⟨2, none⟩, ⟨3, none⟩, ⟨2, none⟩, ⟨1, none⟩, ⟨1, none⟩],
          [], []⟩, true, false, [], []⟩
    let reads := ⟨none, some .interrupted⟩ :: d.port.reads
    let writes : List PortWrite :=
      [⟨1, none⟩, ⟨1, none⟩, ⟨1, none⟩, ⟨2, none⟩, ⟨0, some (.within (text "port") .interrupted)⟩, ⟨1, none⟩,
        ⟨2, none⟩, ⟨2, none⟩, ⟨3, none⟩, ⟨2, none⟩, ⟨1, none⟩, ⟨1, none⟩]
    Interspersed d.port.reads reads ∧ d.writeScript p = d.port.writes ∧ Fragmented (d.writeScript p) writes ∧
      (p.run handle { d with port := { d.port with reads := reads, writes := writes } }).1 = .ok (.ok ()) ∧
      (p.run IdealLink.handle (d.ideal p)).1 = .ok (.ok ()) ∧
      (p.run IdealLink.handle (d.ideal p)).2.delivered =
        [0xF0, 0xF0, 0xF1, 0xF2, 0x02, 0x00, 0xF3, 2, 0x00, 0xE0, 0xF2, 0x02, 0x02, 0xF3, 1, 0x12, 0xF4] := by
  intro p d reads writes
  have hreads : Interspersed d.port.reads reads := .interrupted rfl (.refl _)
  have hscript : d.writeScript p = d.port.writes := writeScript_of_prefix (by decide +kernel)
  have hwrites : Fragmented (d.writeScript p) writes := by
    have hfirst : (0 : Int) < 2 ∧ (0 : Int) < 1 := by decide
    rw [hscript]
    exact .same _ (.same _ (.same _ (.split hfirst.1 hfirst.2 (.interrupted rfl (.refl _)))))
  have hrun : (p.run handle d).1 = .ok (.ok ()) := by decide +kernel
  have htaken : (uninterrupted (d.portHistory p)).flatMap PortCall.taken =
      [0xF0, 0xF0, 0xF1, 0xF2, 0x02, 0x00, 0xF3, 2, 0x00, 0xE0, 0xF2, 0x02, 0x02, 0xF3, 1, 0x12, 0xF4] := by
    decide +kernel
  obtain ⟨⟨hresult, -, -⟩, hideal, -, hdelivered⟩ := run_indistinguishable p rfl hreads hwrites
  exact ⟨hreads, hscript, hwrites, hresult.trans hrun, hideal.trans hrun, hdelivered.trans htaken⟩

end Device

end Chip8
