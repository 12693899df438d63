import Chip8.Proofs.Serial.Transfers

/-!
# Scripts that differ in interruption and fragmentation

Two scripts of a port may tell one story: the second has interrupted calls in between that move nothing,
and takes in several writes what the first takes in one. `Interspersed` and `Fragmented` say so for reads
and writes. A transfer cannot tell such scripts apart: it ends alike on both, the same bytes are taken,
and what is left of the two scripts tells one story again.

A write can be split only into as many bytes as it really took. That is less than the script has for it if
less was offered, so the statement about writes is not about a script but about the calls that were made.
`Sends` are the calls that can be made for some bytes, each with what came of it.
-/

namespace Chip8

/-- The second script is the first with interrupted reads in between that bring nothing. The silence past
the end of the first may be written out in the second. -/
inductive Interspersed : List PortRead → List PortRead → Prop
  | nil : Interspersed [] []
  | same (r : PortRead) {rs rs' : List PortRead} (h : Interspersed rs rs') : Interspersed (r :: rs) (r :: rs')
  | interrupted {e : PortError} {rs rs' : List PortRead} (he : e.isInterruption = true) (h : Interspersed rs rs') :
    Interspersed rs (⟨none, some e⟩ :: rs')
  | silent {rs' : List PortRead} (h : Interspersed [] rs') : Interspersed [] (⟨none, none⟩ :: rs')

/-- The second script is the first with interrupted writes in between that take nothing, and with some
writes split into several. -/
inductive Fragmented : List PortWrite → List PortWrite → Prop
  | nil : Fragmented [] []
  | same (w : PortWrite) {ws ws' : List PortWrite} (h : Fragmented ws ws') : Fragmented (w :: ws) (w :: ws')
  | interrupted {e : PortError} {ws ws' : List PortWrite} (he : e.isInterruption = true) (h : Fragmented ws ws') :
    Fragmented ws (⟨0, some e⟩ :: ws')
  | split {m n : Int} {ws ws' : List PortWrite} (hm : 0 < m) (hn : 0 < n) (h : Fragmented (⟨n, none⟩ :: ws) ws') :
    Fragmented (⟨m + n, none⟩ :: ws) (⟨m, none⟩ :: ws')

theorem Fragmented.refl (script : List PortWrite) : Fragmented script script := by
  induction script with
  | nil => exact .nil
  | cons w rest ih => exact .same w ih

/-! ### Reading -/

namespace Interspersed

open Port

variable {script script' : List PortRead} {timeout : Int}

theorem refl (script : List PortRead) : Interspersed script script := by
  induction script with
  | nil => exact .nil
  | cons r rest ih => exact .same r ih

theorem result_readByte (h : Interspersed script script') :
    (readByte timeout script').result = (readByte timeout script).result := by
  induction h with
  | nil => rfl
  | same r h ih =>
    cases hr : r.isInterrupted with
    | true =>
      rw [readByte_interrupted _ hr, readByte_interrupted _ hr]
      exact ih
    | false => rw [readByte_ends _ hr, readByte_ends _ hr]
  | @interrupted e rs rs' he h ih =>
    have hr : PortRead.isInterrupted ⟨none, some e⟩ = true := he
    rw [readByte_interrupted _ hr]
    exact ih
  | silent h ih => rfl

theorem rest_readByte (h : Interspersed script script') :
    Interspersed (readByte timeout script).rest (readByte timeout script').rest := by
  induction h with
  | nil => exact .nil
  | same r h ih =>
    cases hr : r.isInterrupted with
    | true =>
      rw [readByte_interrupted _ hr, readByte_interrupted _ hr]
      exact ih
    | false =>
      rw [readByte_ends _ hr, readByte_ends _ hr]
      exact h
  | @interrupted e rs rs' he h ih =>
    have hr : PortRead.isInterrupted ⟨none, some e⟩ = true := he
    rw [readByte_interrupted _ hr]
    exact ih
  | silent h ih => exact h

end Interspersed

/-! ### The calls that send some bytes -/

namespace PortWrite

variable {w : PortWrite} {size : Nat}

theorem upTo_eq_self (h : w.capacity ≤ size) : w.upTo size = w := by
  rw [upTo, Int.min_eq_left h]

theorem capacity_upTo_le (w : PortWrite) (size : Nat) : (w.upTo size).capacity ≤ size := Int.min_le_right _ _

theorem goesOn_upTo (hsize : 0 < size) : (w.upTo size).GoesOn ↔ w.GoesOn := by
  have hmin : 0 < min w.capacity size ↔ 0 < w.capacity := by omega
  simp only [GoesOn, upTo, hmin]

theorem ending_upTo (device : Bytes) (hw : ¬w.GoesOn) : (w.upTo size).ending device = w.ending device := by
  obtain ⟨capacity, error⟩ := w
  cases error with
  | some e => rfl
  | none =>
    have hcapacity : ¬0 < capacity := fun h => hw ⟨rfl, h⟩
    have hfit : capacity ≤ size := by omega
    rw [upTo_eq_self hfit]

end PortWrite

def PortCall.written? : PortCall → Option PortWrite
  | write _ w => some w
  | timeout _ _ | read _ => none

def writeResults (calls : List PortCall) : List PortWrite := calls.filterMap PortCall.written?

@[simp] theorem writeResults_nil : writeResults [] = [] := rfl

@[simp] theorem writeResults_write (offered : Bytes) (w : PortWrite) (calls : List PortCall) :
    writeResults (.write offered w :: calls) = w :: writeResults calls := rfl

@[simp] theorem writeResults_append (first rest : List PortCall) :
    writeResults (first ++ rest) = writeResults first ++ writeResults rest := List.filterMap_append

theorem taken_eq_nil_of_writeResults {calls : List PortCall} (h : writeResults calls = []) :
    ∀ c ∈ calls, c.taken = [] := by
  intro c hc
  have hnone := List.filterMap_eq_nil_iff.1 h c hc
  cases c with
  | write offered w => cases hnone
  | timeout | read => rfl

theorem Port.writeResults_readCalls (script : List PortRead) : writeResults (readCalls script) = [] := by
  induction script with
  | nil => rfl
  | cons r rest ih =>
    cases hr : r.isInterrupted with
    | true =>
      rw [readCalls, if_pos hr]
      exact ih
    | false =>
      rw [readCalls, if_neg (by simp [hr])]
      rfl

/-- Sending the bytes can make these calls, none of which takes more than it is offered, and end so. -/
inductive Sends (device : Bytes) : Bytes → List PortCall → Except Crash (Except LinkError Unit) → Prop
  | done : Sends device [] [] (.ok (.ok ()))
  | interrupted {bytes : Bytes} {w : PortWrite} {calls : List PortCall} {r : Except Crash (Except LinkError Unit)}
      (hbytes : bytes ≠ []) (hw : w.isInterrupted = true) (hfit : w.capacity ≤ bytes.length)
      (h : Sends device bytes calls r) : Sends device bytes (.write bytes w :: calls) r
  | goesOn {bytes : Bytes} {w : PortWrite} {calls : List PortCall} {r : Except Crash (Except LinkError Unit)}
      (hbytes : bytes ≠ []) (hw : w.GoesOn) (hfit : w.capacity ≤ bytes.length)
      (h : Sends device (bytes.drop w.capacity.toNat) calls r) : Sends device bytes (.write bytes w :: calls) r
  | ends {bytes : Bytes} {w : PortWrite} (hbytes : bytes ≠ []) (hi : w.isInterrupted = false) (hw : ¬w.GoesOn)
      (hfit : w.capacity ≤ bytes.length) : Sends device bytes [.write bytes w] (w.ending device)

open Port

variable {device bytes : Bytes} {calls : List PortCall} {r : Except Crash (Except LinkError Unit)}

theorem Port.rest_writeAll (script : List PortWrite) (bytes : Bytes) :
    (writeAll device script bytes).rest = script.drop (writeResults (writeCalls script bytes)).length := by
  induction script, bytes using transfer_induction with
  | done script => rw [writeAll_nil, writeCalls_nil, writeResults_nil, List.length_nil, List.drop_zero]
  | unscripted bytes hbytes => rw [writeAll_unscripted hbytes, List.drop_nil]
  | interrupted w rest bytes hbytes hw ih =>
    rw [writeAll_interrupted rest hbytes hw, writeCalls_interrupted rest hbytes hw]
    exact ih
  | goesOn w rest bytes hbytes hw ih =>
    rw [writeAll_goesOn rest hbytes hw, writeCalls_goesOn rest hbytes hw]
    exact ih
  | ends w rest bytes hbytes hi hw =>
    rw [writeAll_ends rest hbytes hi hw, writeCalls_ends rest hbytes hi hw]
    rfl

theorem sends_writeCalls (script : List PortWrite) (bytes : Bytes) :
    Sends device bytes (writeCalls script bytes) (writeAll device script bytes).result := by
  induction script, bytes using transfer_induction with
  | done script =>
    rw [writeCalls_nil, writeAll_nil]
    exact .done
  | unscripted bytes hbytes =>
    have hlength : (0 : Int) < bytes.length := by
      have := List.length_pos_iff.2 hbytes
      omega
    rw [writeCalls_unscripted hbytes, writeAll_unscripted hbytes]
    refine .goesOn hbytes ⟨rfl, hlength⟩ (Int.le_refl _) ?_
    rw [Int.toNat_natCast, List.drop_length]
    exact .done
  | interrupted w rest bytes hbytes hw ih =>
    rw [writeCalls_interrupted rest hbytes hw, writeAll_interrupted rest hbytes hw]
    exact .interrupted hbytes hw (w.capacity_upTo_le _) ih
  | goesOn w rest bytes hbytes hw ih =>
    rw [writeCalls_goesOn rest hbytes hw, writeAll_goesOn rest hbytes hw]
    refine .goesOn hbytes ((PortWrite.goesOn_upTo (List.length_pos_iff.2 hbytes)).2 hw) (w.capacity_upTo_le _) ?_
    rw [PortWrite.toNat_upTo, ← List.drop_eq_drop_min]
    exact ih
  | ends w rest bytes hbytes hi hw =>
    rw [writeCalls_ends rest hbytes hi hw, writeAll_ends rest hbytes hi hw, ← PortWrite.ending_upTo device hw]
    refine .ends hbytes hi ?_ (w.capacity_upTo_le _)
    rwa [PortWrite.goesOn_upTo (List.length_pos_iff.2 hbytes)]

namespace Sends

theorem ne_nil_of_cons {c : PortCall} (h : Sends device bytes (c :: calls) r) : bytes ≠ [] := by
  cases h with
  | interrupted hbytes | goesOn hbytes | ends hbytes => exact hbytes

/-- A script that begins with what came of the calls has them made again. -/
theorem writeCalls_eq (h : Sends device bytes calls r) (tail : List PortWrite) :
    writeCalls (writeResults calls ++ tail) bytes = calls := by
  induction h with
  | done => exact writeCalls_nil tail
  | interrupted hbytes hw hfit h ih =>
    rw [writeResults_write, List.cons_append, writeCalls_interrupted _ hbytes hw, ih, PortWrite.upTo_eq_self hfit]
  | goesOn hbytes hw hfit h ih =>
    rw [writeResults_write, List.cons_append, writeCalls_goesOn _ hbytes hw, ih, PortWrite.upTo_eq_self hfit]
  | ends hbytes hi hw hfit =>
    rw [writeResults_write, List.cons_append, writeCalls_ends _ hbytes hi hw, PortWrite.upTo_eq_self hfit]

theorem writeAll_eq (h : Sends device bytes calls r) (tail : List PortWrite) :
    (writeAll device (writeResults calls ++ tail) bytes).result = r ∧
      (writeAll device (writeResults calls ++ tail) bytes).rest = tail := by
  induction h with
  | done =>
    rw [writeAll_nil]
    exact ⟨rfl, rfl⟩
  | interrupted hbytes hw hfit h ih =>
    rw [writeResults_write, List.cons_append, writeAll_interrupted _ hbytes hw]
    exact ih
  | goesOn hbytes hw hfit h ih =>
    rw [writeResults_write, List.cons_append, writeAll_goesOn _ hbytes hw]
    exact ih
  | ends hbytes hi hw hfit =>
    rw [writeResults_write, List.cons_append, writeAll_ends _ hbytes hi hw]
    exact ⟨rfl, rfl⟩

end Sends

/-! ### Splitting and interrupting writes -/

/-- The rows of results that can stand for one. -/
inductive Fragments : PortWrite → List PortWrite → Prop
  | whole (w : PortWrite) : Fragments w [w]
  | interrupted {e : PortError} {w : PortWrite} {ws : List PortWrite} (he : e.isInterruption = true)
      (h : Fragments w ws) : Fragments w (⟨0, some e⟩ :: ws)
  | split {m n : Int} {ws : List PortWrite} (hm : 0 < m) (hn : 0 < n) (h : Fragments ⟨n, none⟩ ws) :
      Fragments ⟨m + n, none⟩ (⟨m, none⟩ :: ws)

theorem Fragmented.exists_fragments {w : PortWrite} {ws ws' : List PortWrite} (h : Fragmented (w :: ws) ws') :
    ∃ first rest, ws' = first ++ rest ∧ Fragments w first ∧ Fragmented ws rest := by
  generalize hscript : w :: ws = script at h
  induction h generalizing w ws with
  | nil => cases hscript
  | same v h ih =>
    cases hscript
    exact ⟨[v], _, rfl, .whole v, h⟩
  | interrupted he h ih =>
    obtain ⟨first, rest, rfl, hfirst, hrest⟩ := ih hscript
    exact ⟨_ :: first, rest, rfl, .interrupted he hfirst, hrest⟩
  | split hm hn h ih =>
    cases hscript
    obtain ⟨first, rest, rfl, hfirst, hrest⟩ := ih rfl
    exact ⟨_ :: first, rest, rfl, .split hm hn hfirst, hrest⟩

/-- Where one call can be made, a row of calls can that stands for it. -/
theorem Fragments.exists_sends {w : PortWrite} {ws : List PortWrite} (h : Fragments w ws)
    (hsends : Sends device bytes (.write bytes w :: calls) r) :
    ∃ first, writeResults first = ws ∧ Sends device bytes (first ++ calls) r ∧
      first.flatMap PortCall.taken = (PortCall.write bytes w).taken := by
  induction h generalizing bytes with
  | whole w => exact ⟨[.write bytes w], rfl, hsends, by simp⟩
  | interrupted he h ih =>
    obtain ⟨first, rfl, hfirst, htaken⟩ := ih hsends
    refine ⟨.write bytes _ :: first, rfl, ?_, ?_⟩
    · exact .interrupted hsends.ne_nil_of_cons he (Int.natCast_nonneg _) hfirst
    · simpa [PortCall.taken] using htaken
  | @split m n ws hm hn h ih =>
    have hbytes := hsends.ne_nil_of_cons
    -- what is left behind the first part is sent as before
    obtain ⟨hfit, hrest⟩ : m + n ≤ bytes.length ∧ Sends device (bytes.drop (m + n).toNat) calls r := by
      cases hsends with
      | interrupted _ hw _ _ => cases hw
      | goesOn _ _ hfit h => exact ⟨hfit, h⟩
      | ends _ _ hw _ => exact absurd ⟨rfl, Int.add_pos hm hn⟩ hw
    have hsum : (m + n).toNat = m.toNat + n.toNat := Int.toNat_add (by omega) (by omega)
    have hfirstFit : m ≤ bytes.length := by omega
    have hsecondFit : n ≤ (bytes.drop m.toNat).length := by
      rw [List.length_drop]
      omega
    have hsecond : Sends device (bytes.drop m.toNat) (.write (bytes.drop m.toNat) ⟨n, none⟩ :: calls) r := by
      refine .goesOn (List.length_pos_iff.1 (by omega)) ⟨rfl, hn⟩ hsecondFit ?_
      rwa [List.drop_drop, ← hsum]
    obtain ⟨first, rfl, hfirst, htaken⟩ := ih hsecond
    refine ⟨.write bytes _ :: first, rfl, .goesOn hbytes ⟨rfl, hm⟩ hfirstFit hfirst, ?_⟩
    rw [List.flatMap_cons, htaken]
    simp only [PortCall.taken]
    rw [hsum, List.take_add]

/-- A transfer over what came of some calls, interrupted and split anew, ends as they did and with the same
bytes taken. -/
theorem Fragmented.exists_sends (hsends : Sends device bytes calls r) {tail script : List PortWrite}
    (h : Fragmented (writeResults calls ++ tail) script) :
    ∃ calls' tail', script = writeResults calls' ++ tail' ∧ Sends device bytes calls' r ∧
      calls'.flatMap PortCall.taken = calls.flatMap PortCall.taken ∧ Fragmented tail tail' := by
  induction hsends generalizing script with
  | done => exact ⟨[], script, rfl, .done, rfl, h⟩
  | interrupted hbytes hw hfit hcalls ih =>
    obtain ⟨first, rest, rfl, hfirst, hrest⟩ := h.exists_fragments
    obtain ⟨calls', tail', rfl, hcalls', htaken, htail⟩ := ih hrest
    obtain ⟨calls₀, rfl, hsends, htaken₀⟩ := hfirst.exists_sends (.interrupted hbytes hw hfit hcalls')
    exact ⟨calls₀ ++ calls', tail', by simp, hsends, by simp [htaken, htaken₀], htail⟩
  | goesOn hbytes hw hfit hcalls ih =>
    obtain ⟨first, rest, rfl, hfirst, hrest⟩ := h.exists_fragments
    obtain ⟨calls', tail', rfl, hcalls', htaken, htail⟩ := ih hrest
    obtain ⟨calls₀, rfl, hsends, htaken₀⟩ := hfirst.exists_sends (.goesOn hbytes hw hfit hcalls')
    exact ⟨calls₀ ++ calls', tail', by simp, hsends, by simp [htaken, htaken₀], htail⟩
  | ends hbytes hi hw hfit =>
    obtain ⟨first, rest, rfl, hfirst, hrest⟩ := h.exists_fragments
    obtain ⟨calls₀, rfl, hsends, htaken₀⟩ := hfirst.exists_sends (.ends hbytes hi hw hfit)
    exact ⟨calls₀, rest, rfl, by simpa using hsends, by simp [htaken₀], hrest⟩

end Chip8
