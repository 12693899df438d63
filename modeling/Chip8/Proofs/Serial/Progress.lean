import Chip8.Proofs.Serial.Crossing
import Mathlib.Data.Set.Finite.Basic
import Mathlib.Data.Finset.Card

/-!
# Progress of a sending

A port is met here as it is: its writes never come to an end, and the result of the next one is unknown. All
that is known of a port is that no write takes less than nothing and that only finitely many are interrupted.
A sending gets to its end then. A write that does not end it is interrupted or takes a byte, so there are never
more writes than bytes to send and interruptions together (`Sends.length_le`); what the port would have done
later cannot matter, since a sending over a script that is long enough leaves the rest of it alone
(`writeAll_take`).

What a sending counts as sent is what the writes without an error took (`credited`). Each write is offered the
rest behind it, so the sending is done just if nothing is left, and a failure leaves something.
-/

namespace Chip8

namespace PortCall

def error : PortCall → Option PortError
  | timeout _ e => e
  | read r => r.error
  | write _ w => w.error

end PortCall

/-- The bytes that the calls without an error took. -/
def credited (calls : List PortCall) : Bytes := (calls.filter fun c => c.error.isNone).flatMap PortCall.taken

/-- A sending ends at this write with this error: the write reports it and was not interrupted, or it reports
nothing and takes nothing. -/
inductive PortWrite.Fails (device : Bytes) : PortWrite → LinkError → Prop
  | reported {n : Int} {e : PortError} (he : e.isInterruption = false) : Fails device ⟨n, some e⟩ (.port e)
  | nothingTaken : Fails device ⟨0, none⟩ (.nothingTaken device)

/-- The last of the calls is the first write that fails, and it fails with this error. -/
def FirstFailure (device : Bytes) (calls : List PortCall) (e : LinkError) : Prop :=
  ∃ before offered w, calls = before ++ [PortCall.write offered w] ∧ w.Fails device e ∧
    ∀ offered' w' e', PortCall.write offered' w' ∈ before → ¬w'.Fails device e'

section Credited

variable {offered : Bytes} {w : PortWrite} (calls : List PortCall)

theorem credited_cons_of_error (hw : w.error ≠ none) : credited (.write offered w :: calls) = credited calls := by
  have hsome : ¬(PortCall.write offered w).error.isNone = true := fun h => hw (Option.isNone_iff_eq_none.1 h)
  rw [credited, List.filter_cons (x := PortCall.write offered w), if_neg hsome]
  rfl

theorem credited_cons_of_none (hw : w.error = none) :
    credited (.write offered w :: calls) = offered.take w.capacity.toNat ++ credited calls := by
  have hnone : (PortCall.write offered w).error.isNone = true := Option.isNone_iff_eq_none.2 hw
  rw [credited, List.filter_cons (x := PortCall.write offered w), if_pos hnone]
  rfl

end Credited

namespace PortWrite

variable {w : PortWrite} {device : Bytes} {e : LinkError}

theorem error_ne_none_of_isInterrupted (hw : w.isInterrupted = true) : w.error ≠ none := by
  intro hnone
  rw [isInterrupted, hnone] at hw
  cases hw

theorem not_fails_of_isInterrupted (hw : w.isInterrupted = true) : ¬w.Fails device e := by
  intro hfails
  cases hfails with
  | reported he => exact absurd (he.symm.trans hw) Bool.false_ne_true
  | nothingTaken => cases hw

theorem GoesOn.not_fails (hw : w.GoesOn) : ¬w.Fails device e := by
  intro hfails
  cases hfails with
  | reported he => cases hw.1
  | nothingTaken => exact absurd hw.2 (Int.lt_irrefl 0)

/-- A write that ends a sending fails it, unless it took less than nothing. -/
theorem exists_fails (device : Bytes) (hi : w.isInterrupted = false) (hw : ¬w.GoesOn) (hcapacity : 0 ≤ w.capacity) :
    ∃ e, w.ending device = .ok (.error e) ∧ w.Fails device e := by
  obtain ⟨capacity, error⟩ := w
  cases error with
  | some e => exact ⟨.port e, rfl, .reported hi⟩
  | none =>
    obtain rfl : capacity = 0 := by
      have hnot : ¬0 < capacity := fun h => hw ⟨rfl, h⟩
      have hnonneg : 0 ≤ capacity := hcapacity
      omega
    exact ⟨.nothingTaken device, rfl, .nothingTaken⟩

end PortWrite

/-! ### The whole history of a sending -/

namespace Sends

variable {device bytes : Bytes} {calls : List PortCall} {r : Except Crash (Except LinkError Unit)}

/-- Every write is offered what is left behind the writes before it, and that is something. -/
theorem offers (h : Sends device bytes calls r) {before after : List PortCall} {offered : Bytes} {w : PortWrite}
    (hcalls : calls = before ++ .write offered w :: after) : offered ≠ [] ∧ credited before ++ offered = bytes := by
  induction h generalizing before with
  | done => simp at hcalls
  | @interrupted bytes w' calls r hbytes hw hfit h ih =>
    obtain ⟨rfl, hhead⟩ | ⟨front, rfl, hrest⟩ := List.cons_eq_append_iff.1 hcalls
    · cases hhead
      exact ⟨hbytes, rfl⟩
    · rw [credited_cons_of_error front (PortWrite.error_ne_none_of_isInterrupted hw)]
      exact ih hrest
  | @goesOn bytes w' calls r hbytes hw hfit h ih =>
    obtain ⟨rfl, hhead⟩ | ⟨front, rfl, hrest⟩ := List.cons_eq_append_iff.1 hcalls
    · cases hhead
      exact ⟨hbytes, rfl⟩
    · obtain ⟨hoffered, hcredited⟩ := ih hrest
      refine ⟨hoffered, ?_⟩
      rw [credited_cons_of_none front hw.1, List.append_assoc, hcredited, List.take_append_drop]
  | @ends bytes w' hbytes hi hw hfit =>
    obtain ⟨rfl, hhead⟩ | ⟨front, -, hrest⟩ := List.cons_eq_append_iff.1 hcalls
    · cases hhead
      exact ⟨hbytes, rfl⟩
    · simp at hrest

/-- What is credited is a beginning of what was to be sent, and all of it just if the sending succeeds. -/
theorem exists_rest (h : Sends device bytes calls r) :
    ∃ rest, credited calls ++ rest = bytes ∧ (rest = [] ↔ r = .ok (.ok ())) := by
  induction h with
  | done => exact ⟨[], rfl, by simp⟩
  | interrupted hbytes hw hfit h ih =>
    rw [credited_cons_of_error _ (PortWrite.error_ne_none_of_isInterrupted hw)]
    exact ih
  | goesOn hbytes hw hfit h ih =>
    obtain ⟨rest, hcredited, hrest⟩ := ih
    refine ⟨rest, ?_, hrest⟩
    rw [credited_cons_of_none _ hw.1, List.append_assoc, hcredited, List.take_append_drop]
  | @ends bytes w hbytes hi hw hfit =>
    refine ⟨bytes, ?_, iff_of_false hbytes (w.ending_ne_ok device)⟩
    by_cases herror : w.error = none
    · have hcapacity : w.capacity.toNat = 0 := by
        have hnot : ¬0 < w.capacity := fun h => hw ⟨herror, h⟩
        omega
      rw [credited_cons_of_none _ herror, hcapacity]
      rfl
    · rw [credited_cons_of_error _ herror]
      rfl

theorem firstFailure_cons {w : PortWrite} {e : LinkError} (hw : ∀ e', ¬w.Fails device e')
    (h : FirstFailure device calls e) : FirstFailure device (.write bytes w :: calls) e := by
  obtain ⟨before, offered, last, rfl, hlast, hbefore⟩ := h
  refine ⟨.write bytes w :: before, offered, last, rfl, hlast, ?_⟩
  intro offered' w' e' hmem
  obtain heq | hmem := List.mem_cons.1 hmem
  · cases heq
    exact hw e'
  · exact hbefore offered' w' e' hmem

/-- No call is made behind the first write that fails, and its error is the one of the sending. -/
theorem succeeds_or_fails (h : Sends device bytes calls r)
    (hcapacity : ∀ offered w, .write offered w ∈ calls → 0 ≤ w.capacity) :
    r = .ok (.ok ()) ∨ ∃ e, r = .ok (.error e) ∧ FirstFailure device calls e := by
  induction h with
  | done => exact .inl rfl
  | interrupted hbytes hw hfit h ih =>
    obtain hok | ⟨e, hr, hfailure⟩ := ih fun offered w hmem => hcapacity offered w (List.mem_cons_of_mem _ hmem)
    · exact .inl hok
    · exact .inr ⟨e, hr, firstFailure_cons (fun e' => PortWrite.not_fails_of_isInterrupted hw) hfailure⟩
  | goesOn hbytes hw hfit h ih =>
    obtain hok | ⟨e, hr, hfailure⟩ := ih fun offered w hmem => hcapacity offered w (List.mem_cons_of_mem _ hmem)
    · exact .inl hok
    · exact .inr ⟨e, hr, firstFailure_cons (fun e' => hw.not_fails) hfailure⟩
  | @ends bytes w hbytes hi hw hfit =>
    obtain ⟨e, hending, hfails⟩ := PortWrite.exists_fails device hi hw (hcapacity bytes w List.mem_cons_self)
    exact .inr ⟨e, hending, [], bytes, w, rfl, hfails, by simp⟩

theorem length_le (h : Sends device bytes calls r) :
    calls.length ≤ bytes.length + calls.countP PortCall.isInterrupted := by
  induction h with
  | done => exact Nat.zero_le _
  | @interrupted bytes w calls r hbytes hw hfit h ih =>
    rw [List.length_cons, List.countP_cons_of_pos (show (PortCall.write bytes w).isInterrupted = true from hw)]
    omega
  | @goesOn bytes w calls r hbytes hw hfit h ih =>
    have htaken : (bytes.drop w.capacity.toNat).length < bytes.length := by
      have hpositive := hw.2
      rw [List.length_drop]
      omega
    have hcount : calls.countP PortCall.isInterrupted ≤ (PortCall.write bytes w :: calls).countP PortCall.isInterrupted :=
      (List.sublist_cons_self _ _).countP_le
    rw [List.length_cons]
    omega
  | @ends bytes w hbytes hi hw hfit =>
    have hlength := List.length_pos_iff.2 hbytes
    rw [List.length_singleton]
    omega

end Sends

/-! ### A sending ends within a script that is long enough -/

namespace Port

variable {device bytes : Bytes} {script : List PortWrite}

/-- The script has a result for each byte and each interruption. -/
def Suffices (script : List PortWrite) (bytes : Bytes) : Prop :=
  bytes.length + script.countP PortWrite.isInterrupted ≤ script.length

theorem not_suffices_nil (hbytes : bytes ≠ []) : ¬Suffices [] bytes := by
  have hlength := List.length_pos_iff.2 hbytes
  intro h
  have hle : bytes.length + 0 ≤ 0 := h
  omega

theorem Suffices.of_interrupted {w : PortWrite} {rest : List PortWrite} (hw : w.isInterrupted = true)
    (h : Suffices (w :: rest) bytes) : Suffices rest bytes := by
  rw [Suffices, List.countP_cons_of_pos hw, List.length_cons] at h
  rw [Suffices]
  omega

theorem Suffices.of_goesOn {w : PortWrite} {rest : List PortWrite} (hbytes : bytes ≠ []) (hw : w.GoesOn)
    (h : Suffices (w :: rest) bytes) : Suffices rest (bytes.drop w.capacity.toNat) := by
  have hlength := List.length_pos_iff.2 hbytes
  have hpositive := hw.2
  rw [Suffices, List.countP_cons_of_neg (by simp [hw.not_isInterrupted]), List.length_cons] at h
  rw [Suffices, List.length_drop]
  omega

/-- A sending goes through no more of such a script than it makes calls, and whatever stands behind these results
is left. -/
theorem writeAll_take (h : Suffices script bytes) (later : List PortWrite) :
    writeAll device (script.take (writeCalls script bytes).length ++ later) bytes =
      ⟨(writeAll device script bytes).result, later, (writeAll device script bytes).calls⟩ := by
  induction script, bytes using transfer_induction with
  | done script =>
    rw [writeCalls_nil, List.length_nil, List.take_zero, List.nil_append, writeAll_nil, writeAll_nil]
  | unscripted bytes hbytes => exact absurd h (not_suffices_nil hbytes)
  | interrupted w rest bytes hbytes hw ih =>
    rw [writeCalls_interrupted rest hbytes hw, List.length_cons, List.take_succ_cons, List.cons_append,
      writeAll_interrupted _ hbytes hw, ih (h.of_interrupted hw), writeAll_interrupted rest hbytes hw]
  | goesOn w rest bytes hbytes hw ih =>
    rw [writeCalls_goesOn rest hbytes hw, List.length_cons, List.take_succ_cons, List.cons_append,
      writeAll_goesOn _ hbytes hw, ih (h.of_goesOn hbytes hw), writeAll_goesOn rest hbytes hw]
  | ends w rest bytes hbytes hi hw =>
    rw [writeCalls_ends rest hbytes hi hw, List.length_singleton, List.take_succ_cons, List.take_zero, List.singleton_append,
      writeAll_ends _ hbytes hi hw, writeAll_ends rest hbytes hi hw]

theorem exists_of_getElem?_writeCalls (h : Suffices script bytes) {i : Nat} {c : PortCall}
    (hc : (writeCalls script bytes)[i]? = some c) :
    ∃ w offered, script[i]? = some w ∧ c = .write offered (w.upTo offered.length) := by
  induction script, bytes using transfer_induction generalizing i with
  | done script => simp [writeCalls_nil] at hc
  | unscripted bytes hbytes => exact absurd h (not_suffices_nil hbytes)
  | interrupted w rest bytes hbytes hw ih =>
    rw [writeCalls_interrupted rest hbytes hw] at hc
    cases i with
    | zero =>
      cases hc
      exact ⟨w, bytes, rfl, rfl⟩
    | succ i => exact ih (h.of_interrupted hw) hc
  | goesOn w rest bytes hbytes hw ih =>
    rw [writeCalls_goesOn rest hbytes hw] at hc
    cases i with
    | zero =>
      cases hc
      exact ⟨w, bytes, rfl, rfl⟩
    | succ i => exact ih (h.of_goesOn hbytes hw) hc
  | ends w rest bytes hbytes hi hw =>
    rw [writeCalls_ends rest hbytes hi hw] at hc
    cases i with
    | zero =>
      cases hc
      exact ⟨w, bytes, rfl, rfl⟩
    | succ i => cases hc

end Port

/-! ### Ports without an end -/

def firstResults (port : Nat → PortWrite) (n : Nat) : List PortWrite := (List.range n).map port

theorem getElem?_firstResults {port : Nat → PortWrite} {n i : Nat} {w : PortWrite}
    (h : (firstResults port n)[i]? = some w) : i < n ∧ w = port i := by
  rw [firstResults, List.getElem?_map] at h
  obtain ⟨j, hj, rfl⟩ := Option.map_eq_some_iff.1 h
  obtain ⟨hi, rfl⟩ := List.getElem?_eq_some_iff.1 hj
  rw [List.length_range] at hi
  rw [List.getElem_range]
  exact ⟨hi, rfl⟩

theorem firstResults_add (port : Nat → PortWrite) (m n : Nat) :
    firstResults port (m + n) = firstResults port m ++ firstResults (fun i => port (m + i)) n := by
  rw [firstResults, List.range_add, List.map_append, List.map_map]
  rfl

theorem take_firstResults (port : Nat → PortWrite) {m n : Nat} (h : m ≤ n) :
    (firstResults port n).take m = firstResults port m := by
  rw [firstResults, ← List.map_take, List.take_range, Nat.min_eq_left h]
  rfl

/-- If finitely many writes are interrupted, enough results suffice for any bytes. -/
theorem exists_suffices {port : Nat → PortWrite} (hfinite : {n | (port n).isInterrupted = true}.Finite) (bytes : Bytes) :
    ∃ n, Port.Suffices (firstResults port n) bytes := by
  refine ⟨bytes.length + hfinite.toFinset.card, ?_⟩
  rw [Port.Suffices, firstResults, List.length_map, List.length_range, List.countP_map, List.countP_eq_length_filter]
  refine Nat.add_le_add_left ?_ _
  rw [← List.toFinset_card_of_nodup (List.nodup_range.filter _)]
  apply Finset.card_le_card
  intro n hn
  rw [List.mem_toFinset, List.mem_filter] at hn
  exact hfinite.mem_toFinset.2 hn.2

/-- What is known of the calls of a sending, of which number `i` is answered as the port's write number `i` goes. -/
structure Progress (device : Bytes) (port : Nat → PortWrite) (bytes : Bytes) (calls : List PortCall)
    (result : Except LinkError Unit) : Prop where
  answered : ∀ i c, calls[i]? = some c → ∃ offered, c = PortCall.write offered ((port i).upTo offered.length)
  offers : ∀ before offered w after, calls = before ++ PortCall.write offered w :: after →
    offered ≠ [] ∧ credited before ++ offered = bytes
  ok_iff : result = .ok () ↔ credited calls = bytes
  failed : ∀ e, result = .error e →
    FirstFailure device calls e ∧ credited calls <+: bytes ∧ credited calls ≠ bytes
  length_le : calls.length ≤ bytes.length + calls.countP PortCall.isInterrupted

theorem Sends.progress {device bytes : Bytes} {port : Nat → PortWrite} {calls : List PortCall}
    {r : Except Crash (Except LinkError Unit)} (h : Sends device bytes calls r) (hcapacity : ∀ n, 0 ≤ (port n).capacity)
    (hanswered : ∀ i c, calls[i]? = some c → ∃ offered, c = PortCall.write offered ((port i).upTo offered.length)) :
    ∃ result, r = .ok result ∧ Progress device port bytes calls result := by
  have hnonneg : ∀ offered w, PortCall.write offered w ∈ calls → 0 ≤ w.capacity := by
    intro offered w hmem
    obtain ⟨i, hi⟩ := List.mem_iff_getElem?.1 hmem
    obtain ⟨offered', heq⟩ := hanswered i _ hi
    cases heq
    have hport := hcapacity i
    show 0 ≤ min (port i).capacity offered.length
    omega
  obtain ⟨rest, hcredited, hrest⟩ := h.exists_rest
  have hall : credited calls = bytes ↔ r = .ok (.ok ()) := by
    rw [← hrest, ← hcredited, List.self_eq_append_right]
  have hoffers : ∀ before offered w after, calls = before ++ PortCall.write offered w :: after →
      offered ≠ [] ∧ credited before ++ offered = bytes := fun _ _ _ _ heq => h.offers heq
  obtain rfl | ⟨e, rfl, hfailure⟩ := h.succeeds_or_fails hnonneg
  · exact ⟨.ok (), rfl, hanswered, hoffers, iff_of_true rfl (hall.2 rfl), nofun, h.length_le⟩
  · have hpart : credited calls ≠ bytes := fun heq => nomatch hall.1 heq
    refine ⟨.error e, rfl, hanswered, hoffers, iff_of_false nofun hpart, ?_, h.length_le⟩
    intro e' he'
    cases he'
    exact ⟨hfailure, ⟨rest, hcredited⟩, hpart⟩

namespace Device

/-- The device with other results for its writes to come. -/
def withWrites (d : Device) (writes : List PortWrite) : Device := { d with port := { d.port with writes := writes } }

theorem send_withWrites {d : Device} (hopen : d.isOpen = true) {bytes : Bytes} {writes later : List PortWrite}
    {r : Except Crash (Except LinkError Unit)} {calls : List PortEvent}
    (hwrite : Port.writeAll d.name writes bytes = ⟨r, later, calls⟩) : ∃ log,
      (d.withWrites writes).send bytes = (r, { d.withWrites later with trace := d.trace ++ calls, log := log }) := by
  obtain ⟨log, hsend⟩ := send_of_open (show (d.withWrites writes).isOpen = true from hopen) bytes
  refine ⟨log, ?_⟩
  rw [hsend]
  simp only [withWrites, hwrite]

/-- Over a port of which finitely many writes are interrupted every sending ends, and behind its last call the port
is as it would be anyway. Each write is offered the bytes that are left behind those that the writes without an
error took; the sending succeeds just if these are all, and otherwise it ends at the first write that fails, with
the error of that write. -/
theorem sending_ends_exactly (d : Device) (hopen : d.isOpen = true) (bytes : Bytes) (port : Nat → PortWrite)
    (hcapacity : ∀ n, 0 ≤ (port n).capacity) (hfinite : {n | (port n).isInterrupted = true}.Finite) :
    ∃ calls result, Progress d.name port bytes calls result ∧ ∀ later, ∃ log,
      (d.withWrites (firstResults port calls.length ++ later)).send bytes =
        (.ok result, { d.withWrites later with trace := d.trace ++ calls.map PortCall.event, log := log }) := by
  obtain ⟨n, hsuffices⟩ := exists_suffices hfinite bytes
  have hanswered : ∀ i c, (Port.writeCalls (firstResults port n) bytes)[i]? = some c → i < n ∧
      ∃ offered, c = PortCall.write offered ((port i).upTo offered.length) := by
    intro i c hc
    obtain ⟨w, offered, hw, rfl⟩ := Port.exists_of_getElem?_writeCalls hsuffices hc
    obtain ⟨hi, rfl⟩ := getElem?_firstResults hw
    exact ⟨hi, offered, rfl⟩
  have hlength : (Port.writeCalls (firstResults port n) bytes).length ≤ n := by
    by_contra hlt
    have hn := hanswered n _ (List.getElem?_eq_getElem (Nat.lt_of_not_le hlt))
    exact Nat.lt_irrefl n hn.1
  have hsends : Sends d.name bytes (Port.writeCalls (firstResults port n) bytes) _ := sends_writeCalls _ bytes
  obtain ⟨result, hresult, hprogress⟩ := hsends.progress hcapacity fun i c hc => (hanswered i c hc).2
  refine ⟨Port.writeCalls (firstResults port n) bytes, result, hprogress, fun later => ?_⟩
  apply send_withWrites hopen
  rw [← take_firstResults port hlength, Port.writeAll_take hsuffices later, hresult, Port.calls_writeAll]

/-- A write that takes two of three bytes, one that is interrupted although it took the third, and writes that take
nothing from then on: the third byte is offered twice more and not sent. -/
theorem sending_ends_exactly_stalled :
    let d : Device := ⟨text "tty0", ⟨[], [], [], []⟩, true, true, [], []⟩
    let port : Nat → PortWrite := fun n =>
      if n = 0 then ⟨2, none⟩ else if n = 1 then ⟨1, some (.within (text "port") .interrupted)⟩ else ⟨0, none⟩
    (∀ n, 0 ≤ (port n).capacity) ∧ {n | (port n).isInterrupted = true}.Finite ∧
      ∃ calls, Progress d.name port [0xAA, 0xBB, 0xCC] calls (.error (.nothingTaken (text "tty0"))) ∧
        calls.map PortCall.event = [.write [0xAA, 0xBB, 0xCC] 2, .write [0xCC] 1, .write [0xCC] 0] := by
  intro d port
  have hcapacity : ∀ n, 0 ≤ (port n).capacity := by
    intro n
    by_cases h0 : n = 0
    · simp [port, h0]
    · by_cases h1 : n = 1 <;> simp [port, h0, h1]
  have hfinite : {n | (port n).isInterrupted = true}.Finite := by
    refine (Set.finite_singleton 1).subset fun n hn => ?_
    by_contra h1
    have hother : n ≠ 1 := h1
    by_cases h0 : n = 0 <;> simp [port, h0, hother, PortWrite.isInterrupted] at hn
  obtain ⟨calls, result, hprogress, hsend⟩ := sending_ends_exactly d rfl [0xAA, 0xBB, 0xCC] port hcapacity hfinite
  -- the script goes on as the port would, so its first three results are known whatever the number of calls
  obtain ⟨log, h⟩ := hsend (firstResults (fun i => port (calls.length + i)) 3)
  rw [← firstResults_add, Nat.add_comm, firstResults_add] at h
  have hresult : Except.ok (.error (.nothingTaken (text "tty0"))) = Except.ok result := congrArg Prod.fst h
  have htrace : [.write [0xAA, 0xBB, 0xCC] 2, .write [0xCC] 1, .write [0xCC] 0] = calls.map PortCall.event :=
    congrArg (fun p => p.2.trace) h
  cases hresult
  exact ⟨hcapacity, hfinite, calls, hprogress, htrace.symm⟩

end Device

end Chip8
