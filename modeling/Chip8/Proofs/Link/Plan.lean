import Chip8.Link.Script
import Chip8.Proofs.Link.Exchange
import Chip8.Proofs.Text.Chunks

/-!
# The plan of an upload

What an upload sends once it is synchronized is settled before the first byte goes out: the question for
the version, then for each piece of the image its address, its count and its bytes, and at the end the
command to start if that is wanted. This list of exchanges is the `plan`.

Whatever the link does, a run of an upload is some attempts to synchronize that failed, and then, if one
was acknowledged, the plan up to its end or up to the first exchange of it that breaks (`talks_upload`).
So a write of the plan is made only behind whole exchanges, and in particular the image is started only
if all of it was written and every command before was acknowledged (`upload_adheres_to_plan`).
-/

namespace Chip8

namespace Session

/-! ### Synchronizing -/

def Exchange.sync : Exchange := .ofCommand Protocol.sync [] id

def Exchange.start : Exchange := .ofCommand Protocol.run [] id

variable (opts : SessionOptions)

theorem talks_drain {count : Nat} {calls : List LinkCall} {r : Except Crash Unit}
    (h : Talks (drain opts count) calls r) :
    ∃ late : List (Except LinkError UInt8), late.length = count ∧
      calls = late.map (.received opts.responseDelay) ∧ r = .ok () := by
  induction count generalizing calls with
  | zero =>
    obtain ⟨rfl, rfl⟩ := talks_done.1 h
    exact ⟨[], rfl, rfl, rfl⟩
  | succ count ih =>
    obtain ⟨result, rest, rfl, hrest⟩ := talks_receive_bind.1 h
    obtain ⟨late, hlate, rfl, rfl⟩ := ih hrest
    exact ⟨result :: late, by simp [hlate], rfl, rfl⟩

/-- Synchronizing fails as often as it may, or is acknowledged after fewer attempts; then as many bytes
are taken in as attempts failed. -/
theorem talks_syncAfter {failed left : Nat} {calls : List LinkCall} {r : Except Crash Outcome}
    (h : Talks (syncAfter opts failed left) calls r) :
    ∃ attempts : List (List LinkCall), (∀ a ∈ attempts, ∃ e, Exchange.sync.Breaks opts.responseDelay a e) ∧
      ((r = .ok (.error (.notSynchronized opts.syncTries)) ∧ attempts.length = left ∧ calls = attempts.flatten) ∨
        (r = .ok (.ok ()) ∧ attempts.length < left ∧
          ∃ late : List (Except LinkError UInt8), late.length = failed + attempts.length ∧
            calls = attempts.flatten ++
              (Exchange.sync.calls opts.responseDelay ++ late.map (.received opts.responseDelay)))) := by
  induction left generalizing failed calls with
  | zero =>
    obtain ⟨rfl, rfl⟩ := talks_done.1 h
    exact ⟨[], by simp, .inl ⟨rfl, rfl, rfl⟩⟩
  | succ left ih =>
    have hsync := performs_command opts (show Protocol.argumentCount? Protocol.sync = some 0 from rfl)
    obtain ⟨crash, -, hcrash⟩ | ⟨o, first, rest, rfl, hfirst, hrest⟩ := talks_bind h
    · obtain ⟨o, ho, -⟩ := hsync _ _ hcrash
      cases ho
    · obtain ⟨_, ho, hcarries⟩ := hsync _ _ hfirst
      cases ho
      cases hcarries with
      | whole hnil =>
        cases hnil
        obtain ⟨crash, -, hcrash⟩ | ⟨_, drained, rest, rfl, hdrain, hpure⟩ := talks_bind hrest
        · obtain ⟨_, _, _, hr⟩ := talks_drain opts hcrash
          cases hr
        · obtain ⟨late, hlate, rfl, -⟩ := talks_drain opts hdrain
          obtain ⟨rfl, rfl⟩ := talks_pure.1 hpure
          exact ⟨[], by simp, .inr ⟨rfl, Nat.succ_pos left, late, hlate, by simp [Exchange.sync]⟩⟩
      | @broken _ _ _ e hbreaks =>
        have hagain : Talks (syncAfter opts (failed + 1) left) rest r := by
          by_cases hleft : left > 0
          · simpa [hleft] using hrest
          · simpa [hleft] using hrest
        obtain ⟨attempts, hattempts, hend⟩ := ih hagain
        refine ⟨first :: attempts, ?_, ?_⟩
        · intro a ha
          rcases List.mem_cons.1 ha with rfl | ha
          · exact ⟨e, hbreaks⟩
          · exact hattempts a ha
        · obtain ⟨rfl, hlength, rfl⟩ | ⟨rfl, hlength, late, hlate, rfl⟩ := hend
          · exact .inl ⟨rfl, by simp [hlength], by simp⟩
          · exact .inr ⟨rfl, by simpa using hlength, late, by simp [hlate]; omega, by simp⟩

/-! ### The pages of an image -/

theorem toNat_toUInt8 {n : Nat} (h : n < 256) : n.toUInt8.toNat = n := by
  rw [Nat.toUInt8, UInt8.toNat_ofNat', Nat.mod_eq_of_lt h]

theorem addressBytes_toNat {address : Nat} (h : address < 65536) :
    (address / 256).toUInt8.toNat * 256 + address.toUInt8.toNat = address := by
  rw [toNat_toUInt8 (by omega), Nat.toUInt8, UInt8.toNat_ofNat']
  omega

structure Accepted (image : Bytes) : Prop where
  nonempty : image ≠ []
  fits : opts.loadBase.toNat + image.length ≤ memoryEnd
  one_le : 1 ≤ opts.chunkSize
  le_max : opts.chunkSize ≤ Protocol.maxPage

variable {opts} in
theorem accepted_of_refusal? {image : Bytes} (h : refusal? opts image = none) : Accepted opts image := by
  unfold refusal? at h
  split at h
  · cases h
  · next hempty =>
    split at h
    · cases h
    · next hfits =>
      split at h
      · cases h
      · next hsize =>
        exact ⟨by simpa using hempty, by omega, by omega, by omega⟩

def pageAt (image : Bytes) (k : Nat) : Page :=
  ⟨opts.loadBase.toNat + k * opts.chunkSize.toNat, Bytes.chunk opts.chunkSize.toNat image k⟩

def pageCount (image : Bytes) : Nat := Bytes.chunkCount opts.chunkSize.toNat image.length

theorem pagesFrom_map (size : Nat) (piece : Nat → Bytes) (address n : Nat) :
    pagesFrom size address ((List.range n).map piece) =
      (List.range n).map fun k => ⟨address + k * size, piece k⟩ := by
  induction n generalizing address piece with
  | zero => rfl
  | succ n ih =>
    rw [List.range_succ_eq_map, List.map_cons, List.map_map, pagesFrom, ih, List.map_cons, List.map_map,
      Nat.zero_mul, Nat.add_zero]
    congr 1
    refine List.map_congr_left fun k _ => ?_
    rw [Function.comp_apply, Function.comp_apply, Nat.succ_mul]
    congr 1
    omega

variable {opts} {image : Bytes}

theorem Accepted.size_pos (h : Accepted opts image) : 0 < opts.chunkSize.toNat := by
  have := h.one_le
  omega

theorem Accepted.size_le (h : Accepted opts image) : opts.chunkSize.toNat ≤ 255 := by
  have := h.le_max
  simp only [Protocol.maxPage] at this
  omega

theorem pages_eq_map (h : Accepted opts image) (patience : Nat) :
    pages opts image patience = (List.range (pageCount opts image)).map (pageAt opts image) := by
  have hempty : image.isEmpty = false := by simpa using h.nonempty
  have hzero : opts.chunkSize ≠ 0 := by
    have := h.one_le
    omega
  rw [pages, hempty, if_neg Bool.false_ne_true, if_neg hzero, Bytes.chunks_eq_map h.size_pos, pagesFrom_map]
  rfl

theorem Accepted.length_payload (h : Accepted opts image) {k : Nat} (hk : k < pageCount opts image) :
    0 < (pageAt opts image k).payload.length ∧ (pageAt opts image k).payload.length ≤ 255 := by
  have hlength := Bytes.length_chunk h.size_pos image hk
  exact ⟨hlength.1, Nat.le_trans hlength.2 h.size_le⟩

theorem Accepted.address_lt (h : Accepted opts image) {k : Nat} (hk : k < pageCount opts image) :
    (pageAt opts image k).address < memoryEnd := by
  have hstart := (Bytes.lt_chunkCount_iff h.size_pos).1 hk
  have hfits := h.fits
  simp only [pageAt]
  omega

/-! ### The plan -/

/-- A page is its address, its count and its bytes. -/
def Page.exchanges (page : Page) : List Exchange :=
  [.ofCommand Protocol.setAddress [(page.address / 256).toUInt8, page.address.toUInt8] (.atAddress page.address),
    .ofCommand Protocol.writePage [page.payload.length.toUInt8] (.atPage page.address),
    ⟨page.payload, [], .atPage page.address⟩]

variable (opts image)

def pageExchanges : List Exchange := (List.range (pageCount opts image)).flatMap fun k => (pageAt opts image k).exchanges

/-- The exchanges of an upload behind the synchronization. -/
def plan : List Exchange := .version :: (pageExchanges opts image ++ if opts.run then [.start] else [])

variable {opts image}

theorem performs_sendPages {pages : List Page} (h : ∀ page ∈ pages, page.payload.length < 256) :
    Performs opts.responseDelay (sendPages opts pages) (pages.flatMap Page.exchanges) := by
  induction pages with
  | nil => exact .done_ok
  | cons page pages ih =>
    have hpage := performs_countedSend opts (show Protocol.argumentCount? Protocol.writePage = some 1 from rfl)
      (h page (by simp))
    have hrest := ih fun page hmem => h page (by simp [hmem])
    exact (performs_sendAddress opts page.address).followed (fun _ => rfl)
      (hpage.bind (.atPage page.address) (fun _ => rfl) hrest)

theorem performs_download (h : Accepted opts image) :
    Performs opts.responseDelay (download opts image 0) (pageExchanges opts image) := by
  have hsize : ¬(opts.chunkSize < 0 ∧ ¬image.isEmpty) := by
    have := h.one_le
    omega
  have hpages : Performs opts.responseDelay (sendImage opts image 0) (pageExchanges opts image) := by
    rw [sendImage, if_neg hsize, pages_eq_map h, pageExchanges, ← List.flatMap_map]
    refine performs_sendPages fun page hpage => ?_
    obtain ⟨k, hk, rfl⟩ := List.mem_map.1 hpage
    have := (h.length_payload (List.mem_range.1 hk)).2
    omega
  rw [← List.append_nil (pageExchanges opts image)]
  exact .note (hpages.followed (fun _ => rfl) (.note .done_ok))

/-- A run without a refusal is a run of the synchronization, and if that succeeds the plan is carried out. -/
theorem talks_conduct (h : Accepted opts image) {calls : List LinkCall} {r : Except Crash Outcome}
    (htalks : Talks (conduct opts image) calls r) :
    ∃ first rest o, calls = first ++ rest ∧ r = .ok o ∧
      ((∃ e, Talks (synchronize opts) first (.ok (.error e)) ∧ rest = [] ∧ o = .error e) ∨
        (Talks (synchronize opts) first (.ok (.ok ())) ∧ Carries opts.responseDelay (plan opts image) rest o)) := by
  rw [conduct, connect, Program.bind_assoc] at htalks
  obtain ⟨crash, -, hcrash⟩ | ⟨o, first, rest, rfl, hfirst, hrest⟩ := talks_bind htalks
  · obtain ⟨_, _, ⟨hr, _⟩ | ⟨hr, _⟩⟩ := talks_syncAfter opts hcrash <;> cases hr
  · cases o with
    | error e =>
      obtain ⟨rfl, rfl⟩ := talks_pure.1 hrest
      exact ⟨first, [], _, rfl, rfl, .inl ⟨e, hfirst, rfl, rfl⟩⟩
    | ok _ =>
      have hcarried : ∃ o, r = .ok o ∧ Carries opts.responseDelay (plan opts image) rest o := by
        refine (?_ : Performs opts.responseDelay _ ([.version] ++ (pageExchanges opts image ++ _))) rest r hrest
        refine Performs.followed (?_ : Performs _ _ ([.version] ++ [])) (fun _ => rfl)
          ((performs_download h).followed (fun _ => rfl) ?_)
        · exact (performs_checkVersion opts).followed (fun _ => rfl) fun calls r htalks =>
            Performs.done_ok calls r (talks_debugNote_bind opts htalks)
        · by_cases hrun : opts.run
          · simp only [hrun, if_true]
            exact .note (performs_command opts rfl)
          · simp only [hrun]
            exact .done_ok
      obtain ⟨o, rfl, hcarries⟩ := hcarried
      exact ⟨first, rest, o, rfl, rfl, .inr ⟨hfirst, hcarries⟩⟩

variable (opts) in
/-- How often an upload tries to synchronize: as often as it is told to, and at least once. -/
def syncLimit : Nat := (max 1 opts.syncTries).toNat

/-- Every run of an upload that is not refused: attempts to synchronize that broke, and behind one that
was acknowledged the plan, whole or up to a break. -/
theorem talks_upload (haccepted : refusal? opts image = none) {calls : List LinkCall} {r : Except Crash Outcome}
    (htalks : Talks (upload opts image) calls r) :
    ∃ attempts : List (List LinkCall), (∀ a ∈ attempts, ∃ e, Exchange.sync.Breaks opts.responseDelay a e) ∧
      ((attempts.length = syncLimit opts ∧ calls = attempts.flatten ∧
          r = .ok (.error (.notSynchronized (max 1 opts.syncTries)))) ∨
        (attempts.length < syncLimit opts ∧ ∃ (late : List (Except LinkError UInt8)) (rest : List LinkCall) (o : Outcome),
          late.length = attempts.length ∧
          calls = attempts.flatten ++
            (Exchange.sync.calls opts.responseDelay ++ late.map (.received opts.responseDelay)) ++ rest ∧
          r = .ok o ∧ Carries opts.responseDelay (plan opts image) rest o)) := by
  have h := accepted_of_refusal? haccepted
  simp only [upload, haccepted] at htalks
  have h' : Accepted { opts with syncTries := max 1 opts.syncTries } image := ⟨h.nonempty, h.fits, h.one_le, h.le_max⟩
  obtain ⟨first, rest, o, rfl, rfl, ⟨e, hsync, rfl, rfl⟩ | ⟨hsync, hcarries⟩⟩ := talks_conduct h' htalks
  · obtain ⟨attempts, hattempts, ⟨hr, hlength, rfl⟩ | ⟨hr, _⟩⟩ := talks_syncAfter _ hsync
    · cases hr
      exact ⟨attempts, hattempts, .inl ⟨hlength, List.append_nil _, rfl⟩⟩
    · cases hr
  · obtain ⟨attempts, hattempts, ⟨hr, _⟩ | ⟨-, hlength, late, hlate, rfl⟩⟩ := talks_syncAfter _ hsync
    · cases hr
    · exact ⟨attempts, hattempts, .inr ⟨hlength, late, rest, o, by simpa using hlate, rfl, rfl, hcarries⟩⟩

/-! ### What is written -/

@[simp] theorem writes_arrivals (delay : Int) (awaited : List Awaited) : writes (arrivals delay awaited) = [] := by
  induction awaited with
  | nil => rfl
  | cons a awaited ih => exact ih

@[simp] theorem writes_late (delay : Int) (late : List (Except LinkError UInt8)) :
    writes (late.map (.received delay)) = [] := by
  induction late with
  | nil => rfl
  | cons result late ih => exact ih

@[simp] theorem Exchange.writes_calls (delay : Int) (x : Exchange) : writes (x.calls delay) = [x.bytes] := by
  simp [Exchange.calls]

theorem Exchange.Breaks.writes_eq {delay : Int} {x : Exchange} {calls : List LinkCall} {e : SessionError}
    (h : x.Breaks delay calls e) : writes calls = [x.bytes] := by
  cases h <;> simp

theorem Exchange.Breaks.eq_sent {delay : Int} {x : Exchange} {calls : List LinkCall} {e : SessionError}
    (h : x.Breaks delay calls e) : ∃ result rest, calls = .sent x.bytes result :: rest := by
  cases h with
  | unsent e => exact ⟨_, _, rfl⟩
  | unheard _ e => exact ⟨_, _, rfl⟩
  | misheard _ hb => exact ⟨_, _, rfl⟩

theorem writes_attempts {delay : Int} {attempts : List (List LinkCall)}
    (h : ∀ a ∈ attempts, ∃ e, Exchange.sync.Breaks delay a e) :
    writes attempts.flatten = List.replicate attempts.length [Protocol.sync] := by
  induction attempts with
  | nil => rfl
  | cons a attempts ih =>
    obtain ⟨e, ha⟩ := h a (by simp)
    rw [List.flatten_cons, writes_append, ha.writes_eq, ih fun a hmem => h a (by simp [hmem])]
    rfl

/-- What is written of exchanges is a beginning of them, and each write stands behind whole exchanges. -/
theorem Carries.written {delay : Int} {xs : List Exchange} {calls : List LinkCall} {o : Outcome}
    (h : Carries delay xs calls o) :
    ∃ n, n ≤ xs.length ∧ writes calls = (xs.take n).map Exchange.bytes ∧ (o = .ok () → n = xs.length) ∧
      ∀ i x, i < n → xs[i]? = some x →
        ∃ result rest, calls = (xs.take i).flatMap (Exchange.calls delay) ++ .sent x.bytes result :: rest := by
  induction h with
  | nil => exact ⟨0, Nat.le_refl 0, rfl, fun _ => rfl, fun i x hi => absurd hi (Nat.not_lt_zero i)⟩
  | @whole x xs calls o _ ih =>
    obtain ⟨n, hn, hwrites, hall, hbehind⟩ := ih
    refine ⟨n + 1, by simpa using hn, by simp [hwrites], fun ho => by simp [hall ho], ?_⟩
    intro i y hi hy
    cases i with
    | zero =>
      obtain rfl : x = y := by simpa using hy
      exact ⟨.ok (), arrivals delay x.awaited ++ calls, rfl⟩
    | succ i =>
      obtain ⟨result, rest, rfl⟩ := hbehind i y (by omega) (by simpa using hy)
      exact ⟨result, rest, by simp⟩
  | @broken x xs calls e h =>
    refine ⟨1, by simp, by simp [h.writes_eq], nofun, ?_⟩
    intro i y hi hy
    obtain rfl : i = 0 := by omega
    obtain rfl : x = y := by simpa using hy
    obtain ⟨result, rest, rfl⟩ := h.eq_sent
    exact ⟨result, rest, by simp⟩

/-! ### The plan is right, and it is kept to -/

variable (opts image)

/-- The plan says where each piece of the image goes, and how long it is, without losing a bit of either. -/
structure PlanCovers : Prop where
  image_eq : ((List.range (pageCount opts image)).map fun k => (pageAt opts image k).payload).flatten = image
  full : ∀ k, k + 1 < pageCount opts image → (pageAt opts image k).payload.length = opts.chunkSize.toNat
  page : ∀ k, k < pageCount opts image → ∃ high low count : UInt8,
    (pageAt opts image k).exchanges.map Exchange.bytes =
        [[Protocol.setAddress, high, low], [Protocol.writePage, count], (pageAt opts image k).payload] ∧
      high.toNat * 256 + low.toNat = opts.loadBase.toNat + k * opts.chunkSize.toNat ∧
      count.toNat = (pageAt opts image k).payload.length ∧ 1 ≤ count.toNat ∧ count.toNat ≤ 255

/-- The calls of an upload keep to its plan: it is written behind `tries` attempts to synchronize of which
the last was acknowledged, and only behind what was answered as it had to be. -/
structure Adheres (calls : List LinkCall) (r : Except Crash Outcome) (tries : Nat) (written : List Bytes) : Prop where
  one_le_tries : 1 ≤ tries
  tries_le : (tries : Int) ≤ max 1 opts.syncTries
  writes_eq : writes calls = List.replicate tries [Protocol.sync] ++ written
  written_prefix : written <+: (plan opts image).map Exchange.bytes
  earned : ∀ i w, written[i]? = some w → ∃ (opening : List LinkCall) (late : List (Except LinkError UInt8))
      (result : Except LinkError Unit) (rest : List LinkCall), writes opening = List.replicate (tries - 1) [Protocol.sync] ∧
      calls = opening ++ (Exchange.sync.calls opts.responseDelay ++ late.map (.received opts.responseDelay)) ++
        (((plan opts image).take i).flatMap (Exchange.calls opts.responseDelay) ++ .sent w result :: rest)
  started : opts.run = true → written.length = (plan opts image).length → ∃ before result after,
    calls = before ++ ((pageExchanges opts image).flatMap (Exchange.calls opts.responseDelay) ++
      .sent [Protocol.run] result :: after)
  complete : r = .ok (.ok ()) → written = (plan opts image).map Exchange.bytes

variable {opts image}

theorem planCovers (h : Accepted opts image) : PlanCovers opts image := by
  refine ⟨Bytes.flatten_chunks h.size_pos image, fun k hk => Bytes.length_chunk_eq h.size_pos image hk, fun k hk => ?_⟩
  have hlength := h.length_payload hk
  have haddress := h.address_lt hk
  simp only [memoryEnd] at haddress
  refine ⟨_, _, _, rfl, ?_, ?_, ?_⟩
  · exact addressBytes_toNat (by omega)
  · exact toNat_toUInt8 (by omega)
  · rw [toNat_toUInt8 (by omega)]
    exact hlength

/-- Whatever the link does, an upload that is not refused sends the synchronizing command at most as often
as it may, and then no more than its plan. Each write of the plan stands behind the acknowledged attempt
and the whole exchanges before it, so the image is started only if it was written as a whole. -/
theorem upload_adheres_to_plan (haccepted : refusal? opts image = none) :
    PlanCovers opts image ∧ ∀ calls r, Talks (upload opts image) calls r →
      ∃ tries written, Adheres opts image calls r tries written := by
  refine ⟨planCovers (accepted_of_refusal? haccepted), fun calls r htalks => ?_⟩
  have hlimit : (syncLimit opts : Int) = max 1 opts.syncTries := Int.toNat_of_nonneg (by omega)
  obtain ⟨attempts, hattempts, ⟨hlength, rfl, rfl⟩ | ⟨hlength, late, rest, o, -, rfl, rfl, hcarries⟩⟩ :=
    talks_upload haccepted htalks
  · refine ⟨attempts.length, [], by omega, by omega, by simp [writes_attempts hattempts], List.nil_prefix, ?_, ?_, nofun⟩
    · intro i w hw
      simp at hw
    · intro _ hplan
      simp [plan] at hplan
  · obtain ⟨n, hn, hwrites, hall, hbehind⟩ := hcarries.written
    refine ⟨attempts.length + 1, ((plan opts image).take n).map Exchange.bytes, by omega, by omega, ?_, ?_, ?_, ?_, ?_⟩
    · simp [writes_attempts hattempts, hwrites, List.replicate_succ']
      rfl
    · exact (List.take_prefix n _).map _
    · intro i w hw
      rw [List.getElem?_map] at hw
      obtain ⟨x, hx, rfl⟩ := Option.map_eq_some_iff.1 hw
      obtain ⟨hi, hx⟩ : i < n ∧ (plan opts image)[i]? = some x := by
        simpa [List.getElem?_take] using hx
      obtain ⟨result, more, rfl⟩ := hbehind i x hi hx
      exact ⟨attempts.flatten, late, result, more, by simp [writes_attempts hattempts], rfl⟩
    · intro hrun hplan
      -- the command to start is the last of the plan, so everything before it is the version and the pages
      have hplan_eq : plan opts image = (.version :: pageExchanges opts image) ++ [.start] := by simp [plan, hrun]
      have hlast : (pageExchanges opts image).length + 1 < n := by
        rw [List.length_map, List.length_take, hplan_eq] at hplan
        simp at hplan
        omega
      obtain ⟨result, more, rfl⟩ := hbehind ((pageExchanges opts image).length + 1) .start hlast (by simp [hplan_eq])
      have htake : (plan opts image).take ((pageExchanges opts image).length + 1) = .version :: pageExchanges opts image := by
        simp [hplan_eq]
      rw [htake, List.flatMap_cons, List.append_assoc (Exchange.version.calls _), ← List.append_assoc]
      exact ⟨_, result, more, rfl⟩
    · intro hr
      cases hr
      rw [hall rfl, List.take_length]

theorem ScriptedLink.answers (op : LinkOp) (s : ScriptedLink) :
    ∃ answer s', ScriptedLink.handle op s = (.ok answer, s') := by
  cases op with
  | receive timeout =>
    simp only [ScriptedLink.handle]
    split <;> exact ⟨_, _, rfl⟩
  | send bytes =>
    simp only [ScriptedLink.handle]
    split <;> exact ⟨_, _, rfl⟩
  | note line => exact ⟨_, _, rfl⟩
  | pause time => exact ⟨_, _, rfl⟩

/-- Two pages and a start, where the first attempt to synchronize goes unanswered and its acknowledgement
comes late. -/
theorem upload_adheres_to_plan_late_ack :
    let opts : SessionOptions := ⟨0x200, 2, 5, 2, 0, true, false⟩
    let link : ScriptedLink :=
      ⟨[.error (.noResponse 5), .ok 0x0F, .ok 0x0F, .ok 0x0E, .ok 1, .ok 0x0D, .ok 0x0C, .ok 0x0D, .ok 0x0C, .ok 0x0B],
        [], [], []⟩
    refusal? opts [0x00, 0xE0, 0x12] = none ∧ PlanCovers opts [0x00, 0xE0, 0x12] ∧
      ((upload opts [0x00, 0xE0, 0x12]).run ScriptedLink.handle link).1 = .ok (.ok ()) ∧
      ∃ calls tries written, Talks (upload opts [0x00, 0xE0, 0x12]) calls (.ok (.ok ())) ∧
        Adheres opts [0x00, 0xE0, 0x12] calls (.ok (.ok ())) tries written := by
  intro opts link
  have haccepted : refusal? opts [0x00, 0xE0, 0x12] = none := by decide
  have hrun : ((upload opts [0x00, 0xE0, 0x12]).run ScriptedLink.handle link).1 = .ok (.ok ()) := by rfl
  obtain ⟨hcovers, hadheres⟩ := upload_adheres_to_plan haccepted
  obtain ⟨calls, htalks⟩ := talks_run ScriptedLink.answers (upload opts [0x00, 0xE0, 0x12]) link
  rw [hrun] at htalks
  obtain ⟨tries, written, h⟩ := hadheres calls _ htalks
  exact ⟨haccepted, hcovers, hrun, calls, tries, written, htalks, h⟩

end Session

end Chip8
