import Chip8.Serial.Port
import Mathlib.Data.List.Basic
import Mathlib.Data.List.Flatten

/-!
# The calls of a transfer

A transfer goes along the script of its port, and at each result it is one of three things: the call was
interrupted and is made again, or it moved something and the transfer goes on behind it, or it ends the
transfer. The equations for `readByte` and `writeAll` are stated once along these three, together with
the calls that are made, each with what was offered and what the port did; all that is known of a
transfer elsewhere follows from them (`transfer_induction`).

A byte can be moved by a call that was interrupted. Such a byte is moved all the same, but the transfer
takes no notice of it, so the statements here are about the calls that were not interrupted: these move
exactly the bytes that were to be sent, and the one byte that was received.
-/

namespace Chip8

def PortRead.isInterrupted (r : PortRead) : Bool := r.error.any PortError.isInterruption

def PortWrite.isInterrupted (w : PortWrite) : Bool := w.error.any PortError.isInterruption

/-- What a read that was not interrupted gives. -/
def PortRead.answer (timeout : Int) (r : PortRead) : Except LinkError UInt8 :=
  match r.error with
  | some e => .error (.port e)
  | none =>
    match r.byte with
    | some b => .ok b
    | none => .error (.noResponse timeout)

/-- The write takes something and reports nothing. -/
def PortWrite.GoesOn (w : PortWrite) : Prop := w.error = none ∧ 0 < w.capacity

instance (w : PortWrite) : Decidable w.GoesOn := inferInstanceAs (Decidable (_ ∧ _))

/-- What a transfer gives at a write that was not interrupted and does not let it go on. -/
def PortWrite.ending (device : Bytes) (w : PortWrite) : Except Crash (Except LinkError Unit) :=
  match w.error with
  | some e => .ok (.error (.port e))
  | none =>
    if w.capacity < 0 then .error (.startOutOfRange w.capacity) else .ok (.error (.nothingTaken device))

/-- The write as it is where no more than `size` bytes are offered. -/
def PortWrite.upTo (size : Nat) (w : PortWrite) : PortWrite := { w with capacity := min w.capacity size }

theorem PortWrite.toNat_upTo (w : PortWrite) (size : Nat) :
    (w.upTo size).capacity.toNat = min w.capacity.toNat size := by
  simp only [upTo]
  omega

theorem PortWrite.GoesOn.not_isInterrupted {w : PortWrite} (hw : w.GoesOn) : w.isInterrupted = false := by
  rw [isInterrupted, hw.1]
  rfl

theorem PortWrite.ending_ne_ok (device : Bytes) (w : PortWrite) : w.ending device ≠ .ok (.ok ()) := by
  unfold ending
  split
  · simp
  · split <;> simp

inductive PortCall where
  | timeout (time : Int) (error : Option PortError)
  | read (result : PortRead)
  | write (offered : Bytes) (result : PortWrite)
  deriving DecidableEq, Repr

namespace PortCall

def event : PortCall → PortEvent
  | timeout time _ => .timeout time
  | read r => .read r.byte
  | write offered w => .write offered w.capacity.toNat

def isInterrupted : PortCall → Bool
  | timeout _ _ => false
  | read r => r.isInterrupted
  | write _ w => w.isInterrupted

def taken : PortCall → Bytes
  | write offered w => offered.take w.capacity.toNat
  | timeout _ _ | read _ => []

def delivered : PortCall → Bytes
  | read r => r.byte.toList
  | timeout _ _ | write _ _ => []

end PortCall

def PortEvent.taken : PortEvent → Bytes
  | write offered n => offered.take n
  | timeout _ | read _ | close => []

theorem flatMap_taken_event (calls : List PortCall) :
    (calls.map PortCall.event).flatMap PortEvent.taken = calls.flatMap PortCall.taken := by
  rw [List.flatMap_map]
  refine List.flatMap_congr fun c _ => ?_
  cases c <;> rfl

def uninterrupted (calls : List PortCall) : List PortCall := calls.filter fun c => !c.isInterrupted

section Uninterrupted

variable {c : PortCall} (calls : List PortCall)

theorem uninterrupted_cons_of_interrupted (hc : c.isInterrupted = true) :
    uninterrupted (c :: calls) = uninterrupted calls := by
  simp [uninterrupted, hc]

theorem uninterrupted_cons_of_not_interrupted (hc : c.isInterrupted = false) :
    uninterrupted (c :: calls) = c :: uninterrupted calls := by
  simp [uninterrupted, hc]

theorem uninterrupted_append (first rest : List PortCall) :
    uninterrupted (first ++ rest) = uninterrupted first ++ uninterrupted rest := List.filter_append ..

end Uninterrupted

/-- Leaving out the interrupted calls leaves out nothing just if they moved nothing. -/
theorem flatMap_eq_uninterrupted_iff (f : PortCall → Bytes) (calls : List PortCall) :
    calls.flatMap f = (uninterrupted calls).flatMap f ↔ ∀ c ∈ calls, c.isInterrupted = true → f c = [] := by
  induction calls with
  | nil => simp [uninterrupted]
  | cons c rest ih =>
    rw [List.forall_mem_cons, ← ih]
    cases hc : c.isInterrupted with
    | false =>
      rw [uninterrupted_cons_of_not_interrupted rest hc, List.flatMap_cons, List.flatMap_cons, List.append_cancel_left_eq]
      simp
    | true =>
      have hshorter : ((uninterrupted rest).flatMap f).length ≤ (rest.flatMap f).length :=
        (List.filter_sublist.flatMap f).length_le
      rw [uninterrupted_cons_of_interrupted rest hc, List.flatMap_cons]
      constructor
      · intro h
        have hlength := congrArg List.length h
        rw [List.length_append] at hlength
        have hnil : f c = [] := List.eq_nil_of_length_eq_zero (by omega)
        rw [hnil, List.nil_append] at h
        exact ⟨fun _ => hnil, h⟩
      · rintro ⟨hnil, h⟩
        rw [hnil rfl, List.nil_append, h]

namespace Port

def readCalls : List PortRead → List PortCall
  | [] => [.read ⟨none, none⟩]
  | r :: rest => .read r :: if r.isInterrupted then readCalls rest else []

def writeCalls : List PortWrite → Bytes → List PortCall
  | _, [] => []
  | [], bytes => [.write bytes ⟨bytes.length, none⟩]
  | w :: rest, bytes =>
    .write bytes (w.upTo bytes.length) ::
      if w.isInterrupted then writeCalls rest bytes
      else if w.GoesOn then writeCalls rest (bytes.drop w.capacity.toNat)
      else []

variable {device : Bytes} {timeout : Int}

/-! ### Reading -/

section Read

variable {r : PortRead} (rest : List PortRead)

theorem readByte_interrupted (hr : r.isInterrupted = true) : readByte timeout (r :: rest) =
    { readByte timeout rest with calls := .read r.byte :: (readByte timeout rest).calls } := by
  obtain ⟨byte, error⟩ := r
  cases error with
  | none => cases hr
  | some e => exact if_pos hr

theorem readByte_ends (hr : r.isInterrupted = false) :
    readByte timeout (r :: rest) = ⟨r.answer timeout, rest, [.read r.byte]⟩ := by
  obtain ⟨byte, error⟩ := r
  cases error with
  | none => cases byte <;> rfl
  | some e =>
    have he : e.isInterruption = false := hr
    simp [readByte, he, PortRead.answer]

end Read

theorem calls_readByte (script : List PortRead) :
    (readByte timeout script).calls = (readCalls script).map PortCall.event := by
  induction script with
  | nil => rfl
  | cons r rest ih =>
    cases hr : r.isInterrupted with
    | true =>
      rw [readByte_interrupted rest hr, readCalls, if_pos hr, List.map_cons, ← ih]
      rfl
    | false => simp [readByte_ends rest hr, readCalls, hr, PortCall.event]

theorem rest_readByte_suffix (script : List PortRead) : (readByte timeout script).rest <:+ script := by
  induction script with
  | nil => exact List.suffix_refl []
  | cons r rest ih =>
    cases hr : r.isInterrupted with
    | true =>
      rw [readByte_interrupted rest hr]
      exact ih.trans (List.suffix_cons r rest)
    | false =>
      rw [readByte_ends rest hr]
      exact List.suffix_cons r rest

/-- If no read fails for good, the reads that were not interrupted deliver the byte that is received, and
nothing else. -/
theorem delivered_readCalls {script : List PortRead}
    (hscript : ∀ r ∈ script, ∀ e, r.error = some e → e.isInterruption = true) :
    (uninterrupted (readCalls script)).flatMap PortCall.delivered =
      (readByte timeout script).result.toOption.toList := by
  induction script with
  | nil => rfl
  | cons r rest ih =>
    obtain ⟨hhead, hrest⟩ := List.forall_mem_cons.1 hscript
    cases hr : r.isInterrupted with
    | true =>
      have hc : (PortCall.read r).isInterrupted = true := hr
      rw [readByte_interrupted rest hr, readCalls, if_pos hr, ← ih hrest, uninterrupted_cons_of_interrupted _ hc]
    | false =>
      have hnone : r.error = none := by
        cases herror : r.error with
        | none => rfl
        | some e => simp [PortRead.isInterrupted, herror, hhead e herror] at hr
      rw [readByte_ends rest hr, PortRead.answer, hnone]
      cases hbyte : r.byte <;>
        simp [readCalls, uninterrupted, PortCall.isInterrupted, PortCall.delivered, hr, hbyte, Except.toOption]

/-! ### Writing -/

section Write

variable {w : PortWrite} (rest : List PortWrite) {bytes : Bytes}

theorem writeAll_nil (script : List PortWrite) : writeAll device script [] = ⟨.ok (.ok ()), script, []⟩ := by
  cases script <;> rfl

theorem writeAll_unscripted (hbytes : bytes ≠ []) :
    writeAll device [] bytes = ⟨.ok (.ok ()), [], [.write bytes bytes.length]⟩ := by
  cases bytes with
  | nil => exact absurd rfl hbytes
  | cons b more => rfl

theorem writeAll_interrupted (hbytes : bytes ≠ []) (hw : w.isInterrupted = true) : writeAll device (w :: rest) bytes =
    { writeAll device rest bytes with
      calls := .write bytes (w.upTo bytes.length).capacity.toNat :: (writeAll device rest bytes).calls } := by
  rw [PortWrite.toNat_upTo]
  obtain ⟨capacity, error⟩ := w
  obtain ⟨b, more, rfl⟩ := List.exists_cons_of_ne_nil hbytes
  cases error with
  | none => cases hw
  | some e => exact if_pos hw

theorem writeAll_goesOn (hbytes : bytes ≠ []) (hw : w.GoesOn) : writeAll device (w :: rest) bytes =
    { writeAll device rest (bytes.drop w.capacity.toNat) with
      calls := .write bytes (w.upTo bytes.length).capacity.toNat ::
        (writeAll device rest (bytes.drop w.capacity.toNat)).calls } := by
  rw [PortWrite.toNat_upTo]
  obtain ⟨capacity, error⟩ := w
  obtain ⟨rfl, hcapacity⟩ : error = none ∧ 0 < capacity := hw
  obtain ⟨b, more, rfl⟩ := List.exists_cons_of_ne_nil hbytes
  have hpositive : ¬capacity < 0 := by omega
  have htaken : min capacity.toNat (b :: more).length ≠ 0 := by
    rw [List.length_cons]
    omega
  have hdrop : (b :: more).drop (min capacity.toNat (b :: more).length) = (b :: more).drop capacity.toNat :=
    List.drop_eq_drop_min.symm
  simp only [writeAll, hpositive, if_false, htaken, hdrop]

theorem writeAll_ends (hbytes : bytes ≠ []) (hi : w.isInterrupted = false) (hw : ¬w.GoesOn) :
    writeAll device (w :: rest) bytes =
      ⟨w.ending device, rest, [.write bytes (w.upTo bytes.length).capacity.toNat]⟩ := by
  rw [PortWrite.toNat_upTo]
  obtain ⟨capacity, error⟩ := w
  obtain ⟨b, more, rfl⟩ := List.exists_cons_of_ne_nil hbytes
  cases error with
  | some e =>
    have he : e.isInterruption = false := hi
    simp [writeAll, he, PortWrite.ending]
  | none =>
    have hcapacity : ¬0 < capacity := fun h => hw ⟨rfl, h⟩
    have htaken : min capacity.toNat (b :: more).length = 0 := by omega
    simp only [writeAll, htaken, if_true, PortWrite.ending]
    split <;> rfl

theorem writeCalls_nil (script : List PortWrite) : writeCalls script [] = [] := by
  cases script <;> rfl

theorem writeCalls_unscripted (hbytes : bytes ≠ []) : writeCalls [] bytes = [.write bytes ⟨bytes.length, none⟩] := by
  obtain ⟨b, more, rfl⟩ := List.exists_cons_of_ne_nil hbytes
  rfl

theorem writeCalls_interrupted (hbytes : bytes ≠ []) (hw : w.isInterrupted = true) :
    writeCalls (w :: rest) bytes = .write bytes (w.upTo bytes.length) :: writeCalls rest bytes := by
  rw [writeCalls, if_pos hw]
  exact hbytes

theorem writeCalls_goesOn (hbytes : bytes ≠ []) (hw : w.GoesOn) : writeCalls (w :: rest) bytes =
    .write bytes (w.upTo bytes.length) :: writeCalls rest (bytes.drop w.capacity.toNat) := by
  rw [writeCalls, if_neg (by simp [hw.not_isInterrupted]), if_pos hw]
  exact hbytes

theorem writeCalls_ends (hbytes : bytes ≠ []) (hi : w.isInterrupted = false) (hw : ¬w.GoesOn) :
    writeCalls (w :: rest) bytes = [.write bytes (w.upTo bytes.length)] := by
  rw [writeCalls, if_neg (by simp [hi]), if_neg hw]
  exact hbytes

end Write

/-- A transfer has nothing left to send, or has come to the end of its script, or finds there an interrupted
write, a write that lets it go on, or one that ends it. -/
@[elab_as_elim]
theorem transfer_induction {motive : List PortWrite → Bytes → Prop} (done : ∀ script, motive script [])
    (unscripted : ∀ bytes, bytes ≠ [] → motive [] bytes)
    (interrupted : ∀ w rest bytes, bytes ≠ [] → w.isInterrupted = true → motive rest bytes → motive (w :: rest) bytes)
    (goesOn : ∀ w rest bytes, bytes ≠ [] → w.GoesOn → motive rest (bytes.drop w.capacity.toNat) →
      motive (w :: rest) bytes)
    (ends : ∀ w rest bytes, bytes ≠ [] → w.isInterrupted = false → ¬w.GoesOn → motive (w :: rest) bytes)
    (script : List PortWrite) (bytes : Bytes) : motive script bytes := by
  induction script generalizing bytes with
  | nil =>
    by_cases hbytes : bytes = []
    · rw [hbytes]
      exact done []
    · exact unscripted bytes hbytes
  | cons w rest ih =>
    by_cases hbytes : bytes = []
    · rw [hbytes]
      exact done (w :: rest)
    cases hi : w.isInterrupted with
    | true => exact interrupted w rest bytes hbytes hi (ih bytes)
    | false =>
      by_cases hw : w.GoesOn
      · exact goesOn w rest bytes hbytes hw (ih _)
      · exact ends w rest bytes hbytes hi hw

theorem calls_writeAll (script : List PortWrite) (bytes : Bytes) :
    (writeAll device script bytes).calls = (writeCalls script bytes).map PortCall.event := by
  induction script, bytes using transfer_induction with
  | done script => rw [writeAll_nil, writeCalls_nil, List.map_nil]
  | unscripted bytes hbytes =>
    rw [writeAll_unscripted hbytes, writeCalls_unscripted hbytes]
    rfl
  | interrupted w rest bytes hbytes hw ih =>
    rw [writeAll_interrupted rest hbytes hw, writeCalls_interrupted rest hbytes hw, List.map_cons, ← ih]
    rfl
  | goesOn w rest bytes hbytes hw ih =>
    rw [writeAll_goesOn rest hbytes hw, writeCalls_goesOn rest hbytes hw, List.map_cons, ← ih]
    rfl
  | ends w rest bytes hbytes hi hw =>
    rw [writeAll_ends rest hbytes hi hw, writeCalls_ends rest hbytes hi hw]
    rfl

/-- If all was sent, the writes that were not interrupted took it, each byte once and in order. -/
theorem taken_writeCalls {script : List PortWrite} {bytes : Bytes}
    (h : (writeAll device script bytes).result = .ok (.ok ())) :
    (uninterrupted (writeCalls script bytes)).flatMap PortCall.taken = bytes := by
  induction script, bytes using transfer_induction with
  | done script =>
    rw [writeCalls_nil]
    rfl
  | unscripted bytes hbytes =>
    rw [writeCalls_unscripted hbytes]
    simp [uninterrupted, PortCall.isInterrupted, PortWrite.isInterrupted, PortCall.taken]
  | interrupted w rest bytes hbytes hw ih =>
    have hc : (PortCall.write bytes (w.upTo bytes.length)).isInterrupted = true := hw
    rw [writeAll_interrupted rest hbytes hw] at h
    rw [writeCalls_interrupted rest hbytes hw, uninterrupted_cons_of_interrupted _ hc]
    exact ih h
  | goesOn w rest bytes hbytes hw ih =>
    have hc : (PortCall.write bytes (w.upTo bytes.length)).isInterrupted = false := hw.not_isInterrupted
    have htaken : (PortCall.write bytes (w.upTo bytes.length)).taken = bytes.take w.capacity.toNat := by
      rw [PortCall.taken, PortWrite.toNat_upTo, ← List.take_eq_take_min]
    rw [writeAll_goesOn rest hbytes hw] at h
    rw [writeCalls_goesOn rest hbytes hw, uninterrupted_cons_of_not_interrupted _ hc, List.flatMap_cons, htaken, ih h,
      List.take_append_drop]
  | ends w rest bytes hbytes hi hw =>
    rw [writeAll_ends rest hbytes hi hw] at h
    exact absurd h (w.ending_ne_ok device)

theorem delivered_writeCalls (script : List PortWrite) (bytes : Bytes) :
    ∀ c ∈ writeCalls script bytes, c.delivered = [] := by
  induction script, bytes using transfer_induction with
  | done script => simp [writeCalls_nil]
  | unscripted bytes hbytes => simp [writeCalls_unscripted hbytes, PortCall.delivered]
  | interrupted w rest bytes hbytes hw ih =>
    rw [writeCalls_interrupted rest hbytes hw]
    exact List.forall_mem_cons.2 ⟨rfl, ih⟩
  | goesOn w rest bytes hbytes hw ih =>
    rw [writeCalls_goesOn rest hbytes hw]
    exact List.forall_mem_cons.2 ⟨rfl, ih⟩
  | ends w rest bytes hbytes hi hw => simp [writeCalls_ends rest hbytes hi hw, PortCall.delivered]

end Port

end Chip8
