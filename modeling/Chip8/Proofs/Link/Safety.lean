import Chip8.Proofs.Link.Board
import Mathlib.Logic.Relation

/-!
# An upload to a board is safe

A host and a board are joined by two queues of bytes. The host may wait in vain although bytes are under
way to it, a sending may fail after any part of its bytes went out, and the board takes a byte whenever it
likes. Nothing is assumed of the order in which these things happen.

The argument does not follow the joint state. The calls of the host so far (`Joined.Consistent`) determine
what was delivered, up to the parts of failed sendings; the board has taken a beginning of it, and what
the host heard is a beginning of what the board answered. What can be delivered is known from the plan
(`delivered_of_talks`), and what a board makes of each beginning of it from the board alone. That an upload
that succeeds leaves nothing unanswered follows from the order of the answers: an acknowledgement of a
late synchronizing command would have come in the place of the version's.
-/

namespace Chip8

open Session Board

/-! ### What calls deliver -/

/-- The calls can deliver these bytes: a sending that fails delivers any beginning of its bytes. -/
inductive Delivers : List LinkCall → Bytes → Prop
  | nil : Delivers [] []
  | received {timeout : Int} {result : Except LinkError UInt8} {calls : List LinkCall} {bytes : Bytes}
      (h : Delivers calls bytes) : Delivers (.received timeout result :: calls) bytes
  | sent {argument : Bytes} {calls : List LinkCall} {bytes : Bytes} (h : Delivers calls bytes) :
      Delivers (.sent argument (.ok ()) :: calls) (argument ++ bytes)
  | failed {argument part : Bytes} {e : LinkError} {calls : List LinkCall} {bytes : Bytes}
      (hpart : part <+: argument) (h : Delivers calls bytes) :
      Delivers (.sent argument (.error e) :: calls) (part ++ bytes)

namespace Delivers

variable {calls more : List LinkCall} {bytes rest : Bytes}

theorem append (h : Delivers calls bytes) (h' : Delivers more rest) : Delivers (calls ++ more) (bytes ++ rest) := by
  induction h with
  | nil => exact h'
  | received _ ih => exact .received ih
  | sent _ ih =>
    rw [List.append_assoc]
    exact .sent ih
  | failed hpart _ ih =>
    rw [List.append_assoc]
    exact .failed hpart ih

theorem split (h : Delivers (calls ++ more) bytes) :
    ∃ first rest, bytes = first ++ rest ∧ Delivers calls first ∧ Delivers more rest := by
  induction calls generalizing bytes with
  | nil => exact ⟨[], bytes, rfl, .nil, h⟩
  | cons call calls ih =>
    cases h with
    | received h =>
      obtain ⟨first, rest, rfl, hfirst, hrest⟩ := ih h
      exact ⟨first, rest, rfl, .received hfirst, hrest⟩
    | sent h =>
      obtain ⟨first, rest, rfl, hfirst, hrest⟩ := ih h
      exact ⟨_, rest, (List.append_assoc _ _ _).symm, .sent hfirst, hrest⟩
    | failed hpart h =>
      obtain ⟨first, rest, rfl, hfirst, hrest⟩ := ih h
      exact ⟨_, rest, (List.append_assoc _ _ _).symm, .failed hpart hfirst, hrest⟩

theorem exists_of (calls : List LinkCall) : ∃ bytes, Delivers calls bytes := by
  induction calls with
  | nil => exact ⟨[], .nil⟩
  | cons call calls ih =>
    obtain ⟨bytes, h⟩ := ih
    cases call with
    | sent argument result =>
      cases result with
      | ok _ => exact ⟨_, .sent h⟩
      | error e => exact ⟨_, .failed List.nil_prefix h⟩
    | received timeout result => exact ⟨bytes, .received h⟩

end Delivers

theorem Delivers.eq_nil {calls : List LinkCall} {bytes : Bytes} (h : Delivers calls bytes) (hwrites : writes calls = []) :
    bytes = [] := by
  induction h with
  | nil => rfl
  | received _ ih => exact ih hwrites
  | sent _ _ => cases hwrites
  | failed _ _ _ => cases hwrites

theorem delivers_calls {delay : Int} {x : Exchange} {bytes : Bytes} (h : Delivers (x.calls delay) bytes) :
    bytes = x.bytes := by
  cases h with
  | sent h => rw [h.eq_nil (writes_arrivals _ _), List.append_nil]

theorem delivers_of_breaks {delay : Int} {x : Exchange} {calls : List LinkCall} {e : SessionError} {bytes : Bytes}
    (hbreaks : x.Breaks delay calls e) (h : Delivers calls bytes) : bytes <+: x.bytes := by
  cases hbreaks with
  | unsent e =>
    cases h with
    | failed hpart h =>
      cases h
      rwa [List.append_nil]
  | unheard _ e =>
    cases h with
    | sent h =>
      obtain rfl := h.eq_nil (by simp)
      simp
  | misheard _ hb =>
    cases h with
    | sent h =>
      obtain rfl := h.eq_nil (by simp)
      simp

theorem delivers_attempts {delay : Int} {attempts : List (List LinkCall)}
    (hattempts : ∀ a ∈ attempts, ∃ e, Exchange.sync.Breaks delay a e) {bytes : Bytes}
    (h : Delivers attempts.flatten bytes) : ∃ count, bytes = List.replicate count Protocol.sync := by
  induction attempts generalizing bytes with
  | nil =>
    cases h
    exact ⟨0, rfl⟩
  | cons a attempts ih =>
    obtain ⟨first, rest, rfl, hfirst, hrest⟩ := Delivers.split h
    obtain ⟨e, ha⟩ := hattempts a (by simp)
    obtain ⟨count, rfl⟩ := ih (fun a hmem => hattempts a (by simp [hmem])) hrest
    obtain ⟨late, hlate⟩ := delivers_of_breaks ha hfirst
    obtain ⟨hlength, hsync, -⟩ := List.append_eq_replicate_iff.1 (show first ++ late = List.replicate 1 Protocol.sync from hlate)
    exact ⟨first.length + count, by rw [hsync, List.length_replicate, List.replicate_append_replicate]⟩

/-- Exchanges deliver a beginning of their bytes, and all of them if none breaks. -/
theorem delivers_of_carries {delay : Int} {xs : List Exchange} {calls : List LinkCall} {o : Outcome} {bytes : Bytes}
    (hcarries : Carries delay xs calls o) (h : Delivers calls bytes) :
    ∃ rest, bytes ++ rest = xs.flatMap Exchange.bytes ∧ (o = .ok () → rest = []) := by
  induction hcarries generalizing bytes with
  | nil =>
    cases h
    exact ⟨[], rfl, fun _ => rfl⟩
  | whole _ ih =>
    obtain ⟨first, more, rfl, hfirst, hmore⟩ := h.split
    obtain ⟨rest, hrest, hall⟩ := ih hmore
    rw [delivers_calls hfirst, List.flatMap_cons, ← hrest]
    exact ⟨rest, List.append_assoc _ _ _, hall⟩
  | broken hbreaks =>
    obtain ⟨rest, hrest⟩ := delivers_of_breaks hbreaks h
    rw [List.flatMap_cons, ← hrest]
    exact ⟨_, (List.append_assoc _ _ _).symm, nofun⟩

/-! ### What an upload delivers and hears -/

variable {opts : SessionOptions} {image : Bytes}

/-- The bytes that have to come back for exchanges. -/
def replies (xs : List Exchange) : Bytes := xs.flatMap fun x => x.awaited.map Awaited.byte

theorem heard_calls (delay : Int) (x : Exchange) : heard (x.calls delay) = x.awaited.map Awaited.byte := by
  rw [Exchange.calls, heard_sent, arrivals]
  induction x.awaited with
  | nil => rfl
  | cons a awaited ih => rw [List.map_cons, heard_ok, ih, List.map_cons]

theorem length_replies_pages : (replies (pageExchanges opts image)).length = 2 * pageCount opts image := by
  rw [pageExchanges]
  induction pageCount opts image with
  | zero => rfl
  | succ n ih =>
    rw [List.range_succ, List.flatMap_append, List.flatMap_singleton, replies, List.flatMap_append, List.length_append,
      ← replies, ih]
    rfl

/-- The answers to a whole plan start with the acknowledgement of the version question. -/
theorem heard_plan (opts : SessionOptions) (image : Bytes) (delay : Int) : ∃ more, heard ((plan opts image).flatMap (Exchange.calls delay)) =
    Protocol.ack Protocol.getVersion :: more ∧ more.length + 1 = replyCount opts image := by
  have hheard (xs : List Exchange) : heard (xs.flatMap (Exchange.calls delay)) = replies xs := by
    induction xs with
    | nil => rfl
    | cons x xs ih => rw [List.flatMap_cons, heard_append, heard_calls, ih, replies, replies, List.flatMap_cons]
  have hstart : (replies (if opts.run then [Exchange.start] else [])).length = (startBytes opts).length := by
    unfold startBytes
    split <;> rfl
  refine ⟨Protocol.version :: replies (pageExchanges opts image ++ if opts.run then [.start] else []), hheard _, ?_⟩
  rw [replies, List.flatMap_append, List.length_cons, List.length_append, ← replies, ← replies, length_replies_pages,
    hstart, replyCount]
  omega

/-- What an upload delivers is some synchronizing commands and a beginning of its plan. If it succeeds it
is all of the plan, and then everything that answers it was heard. -/
theorem delivered_of_talks (haccepted : refusal? opts image = none) {calls : List LinkCall} {r : Except Crash Outcome}
    (htalks : Talks (upload opts image) calls r) {bytes : Bytes} (hdelivers : Delivers calls bytes) :
    ∃ count rest, bytes ++ rest = List.replicate count Protocol.sync ++ planBytes opts image ∧
      (r = .ok (.ok ()) → rest = [] ∧ ∃ early more,
        heard calls = early ++ Protocol.ack Protocol.getVersion :: more ∧ more.length + 1 = replyCount opts image) := by
  obtain ⟨attempts, hattempts, ⟨-, rfl, rfl⟩ | ⟨-, late, rest, o, -, rfl, rfl, hcarries⟩⟩ :=
    talks_upload haccepted htalks
  · obtain ⟨count, rfl⟩ := delivers_attempts hattempts hdelivers
    exact ⟨count, planBytes opts image, rfl, nofun⟩
  · obtain ⟨opening, tail, rfl, hopening, htail⟩ := hdelivers.split
    obtain ⟨tried, synced, rfl, htried, hsynced⟩ := hopening.split
    obtain ⟨sync, nothing, rfl, hsync, hnothing⟩ := hsynced.split
    obtain ⟨count, rfl⟩ := delivers_attempts hattempts htried
    obtain ⟨missing, hmissing, hall⟩ := delivers_of_carries hcarries htail
    rw [delivers_calls hsync, hnothing.eq_nil (writes_late _ _)]
    refine ⟨count + 1, missing, ?_, fun hr => ?_⟩
    · rw [planBytes, ← hmissing, List.replicate_succ', List.append_nil]
      simp only [List.append_assoc]
      rfl
    · cases hr
      obtain ⟨-, rfl⟩ | ⟨_, _, _, _, _, _, _, ho, _⟩ := hcarries.cases_of
      · obtain ⟨more, hmore, hlength⟩ := heard_plan opts image opts.responseDelay
        exact ⟨hall rfl, _, more, by rw [heard_append, hmore], hlength⟩
      · cases ho

/-! ### A host and a board -/

/-- A host and a board, with the bytes that are under way between them. -/
structure Joined where
  host : Program Link Outcome
  toBoard : Bytes
  board : Board
  toHost : Bytes

namespace Joined

/-- What can happen next. -/
inductive Step : Joined → Joined → Prop
  /-- The host reads the oldest byte that is under way to it. -/
  | arrive {timeout : Int} {next : Except LinkError UInt8 → Program Link Outcome} {toBoard : Bytes} {board : Board}
      {b : UInt8} {toHost : Bytes} :
      Step ⟨.call (.receive timeout) next, toBoard, board, b :: toHost⟩ ⟨next (.ok b), toBoard, board, toHost⟩
  /-- The host reads nothing, be it in time or because the link fails, whatever is under way. -/
  | expire {timeout : Int} {next : Except LinkError UInt8 → Program Link Outcome} {toBoard : Bytes} {board : Board}
      {toHost : Bytes} (e : LinkError) :
      Step ⟨.call (.receive timeout) next, toBoard, board, toHost⟩ ⟨next (.error e), toBoard, board, toHost⟩
  /-- The host sends all of its bytes. -/
  | send {bytes : Bytes} {next : Except LinkError Unit → Program Link Outcome} {toBoard : Bytes} {board : Board}
      {toHost : Bytes} :
      Step ⟨.call (.send bytes) next, toBoard, board, toHost⟩ ⟨next (.ok ()), toBoard ++ bytes, board, toHost⟩
  /-- The sending fails after a part of the bytes went out. -/
  | lose {bytes part : Bytes} {next : Except LinkError Unit → Program Link Outcome} {toBoard : Bytes} {board : Board}
      {toHost : Bytes} (hpart : part <+: bytes) (e : LinkError) :
      Step ⟨.call (.send bytes) next, toBoard, board, toHost⟩ ⟨next (.error e), toBoard ++ part, board, toHost⟩
  | note {line : Bytes} {next : Unit → Program Link Outcome} {toBoard : Bytes} {board : Board} {toHost : Bytes} :
      Step ⟨.call (.note line) next, toBoard, board, toHost⟩ ⟨next (), toBoard, board, toHost⟩
  | pause {time : Int} {next : Unit → Program Link Outcome} {toBoard : Bytes} {board : Board} {toHost : Bytes} :
      Step ⟨.call (.pause time) next, toBoard, board, toHost⟩ ⟨next (), toBoard, board, toHost⟩
  /-- The board takes the oldest byte that is under way to it. -/
  | take {host : Program Link Outcome} {b : UInt8} {toBoard : Bytes} {board : Board} {toHost : Bytes} :
      Step ⟨host, b :: toBoard, board, toHost⟩ ⟨host, toBoard, (board.take b).1, toHost ++ (board.take b).2⟩

/-- The states in which a run can be. -/
abbrev Reaches : Joined → Joined → Prop := Relation.ReflTransGen Step

/-- How the calls of the host account for a joint state: it can go on to a run of the whole program, and
the board has taken a beginning of what was delivered and has answered what the host heard and what is
under way to it. -/
structure Consistent (program : Program Link Outcome) (idle : Board) (calls : List LinkCall) (taken : Bytes)
    (c : Joined) : Prop where
  resumes : ∀ rest r, Talks c.host rest r → Talks program (calls ++ rest) r
  delivers : Delivers calls (taken ++ c.toBoard)
  board_eq : c.board = idle.after taken
  heard_eq : heard calls ++ c.toHost = idle.answers taken

variable {program : Program Link Outcome} {idle : Board}

theorem Consistent.start : Consistent program idle [] [] ⟨program, [], idle, []⟩ :=
  ⟨fun _ _ h => h, .nil, rfl, rfl⟩

theorem Consistent.step {calls : List LinkCall} {taken : Bytes} {c c' : Joined}
    (h : Consistent program idle calls taken c) (hstep : Step c c') :
    ∃ calls' taken', Consistent program idle calls' taken' c' := by
  obtain ⟨hresumes, hdelivers, hboard, hheard⟩ := h
  cases hstep with
  | @arrive timeout next toBoard board b toHost =>
    refine ⟨calls ++ [.received timeout (.ok b)], taken, ?_, ?_, hboard, ?_⟩
    · intro rest r h
      rw [List.append_assoc]
      exact hresumes _ r (.receive (.ok b) h)
    · simpa using hdelivers.append (.received .nil)
    · simpa using hheard
  | @expire timeout next toBoard board toHost e =>
    refine ⟨calls ++ [.received timeout (.error e)], taken, ?_, ?_, hboard, ?_⟩
    · intro rest r h
      rw [List.append_assoc]
      exact hresumes _ r (.receive (.error e) h)
    · simpa using hdelivers.append (.received .nil)
    · simpa using hheard
  | @send bytes next toBoard board toHost =>
    refine ⟨calls ++ [.sent bytes (.ok ())], taken, ?_, ?_, hboard, ?_⟩
    · intro rest r h
      rw [List.append_assoc]
      exact hresumes _ r (.send (.ok ()) h)
    · simpa using hdelivers.append (.sent .nil)
    · simpa using hheard
  | @lose bytes part next toBoard board toHost hpart e =>
    refine ⟨calls ++ [.sent bytes (.error e)], taken, ?_, ?_, hboard, ?_⟩
    · intro rest r h
      rw [List.append_assoc]
      exact hresumes _ r (.send (.error e) h)
    · simpa using hdelivers.append (.failed hpart .nil)
    · simpa using hheard
  | note => exact ⟨calls, taken, fun rest r h => hresumes rest r (.note h), hdelivers, hboard, hheard⟩
  | pause => exact ⟨calls, taken, fun rest r h => hresumes rest r (.pause h), hdelivers, hboard, hheard⟩
  | @take host b toBoard board toHost =>
    refine ⟨calls, taken ++ [b], hresumes, by simpa using hdelivers, ?_, ?_⟩
    · rw [after_append, ← hboard]
      rfl
    · rw [answers_append, ← hboard, ← hheard]
      simp [answers]

theorem consistent_of_reaches {c : Joined} (h : Reaches ⟨program, [], idle, []⟩ c) :
    ∃ calls taken, Consistent program idle calls taken c := by
  induction h with
  | refl => exact ⟨[], [], .start⟩
  | tail _ hstep ih =>
    obtain ⟨calls, taken, h⟩ := ih
    exact h.step hstep

/-- Once an upload has succeeded the board has answered everything: what the host heard goes through to the
answers of the whole plan, since no late acknowledgement can stand in the place of the version's. -/
theorem length_answers_of_heard {board : Board} (hidle : board.mode = .idle) {count total : Nat}
    {taken under plan early more toHost : Bytes}
    (htaken : taken ++ under = List.replicate count Protocol.sync ++ plan)
    (hheard : early ++ Protocol.ack Protocol.getVersion :: more ++ toHost = board.answers taken)
    (htotal : more.length + 1 = total) : count + total ≤ (board.answers taken).length := by
  have hall : board.answers taken ++ (board.after taken).answers under =
      List.replicate count (Protocol.ack Protocol.sync) ++ board.answers plan := by
    rw [← answers_append, htaken, answers_append, answers_sync hidle, after_sync hidle]
  have hearly : count ≤ early.length := by
    refine Nat.le_of_not_lt fun hlt => ?_
    have hat := congrArg (·[early.length]?) hall
    simp [← hheard, List.getElem?_append, hlt] at hat
    exact absurd hat (by decide)
  rw [← hheard]
  simp
  omega

/-- However the bytes are delayed and wherever the link fails, an upload to an idle board changes its memory
only to the first bytes of the image, in order, and starts it only if that is wanted and all of the image is
there. If the upload succeeds, then what is not yet stored is exactly what is still under way to the board, so all of
the image is there if it was started or if nothing is under way, and the board is started just if that is wanted. -/
theorem upload_keeps_memory (haccepted : refusal? opts image = none) {idle : Board} (hidle : idle.mode = .idle)
    (hstopped : idle.started = false) {c : Joined} (hreach : Reaches ⟨upload opts image, [], idle, []⟩ c) :
    ∃ m, m ≤ image.length ∧ Loaded idle.memory opts.loadBase.toNat image m c.board.memory ∧
      (c.board.started = true → opts.run = true ∧ m = image.length) ∧
      (c.host = .done (.ok ()) →
        c.toBoard = image.drop m ∧ (opts.run = true ∨ c.toBoard = [] → m = image.length) ∧
          c.board.started = opts.run) := by
  have h := accepted_of_refusal? haccepted
  obtain ⟨calls, taken, hresumes, hdelivers, hboard, hheard⟩ := consistent_of_reaches hreach
  rw [hboard]
  by_cases hdone : c.host = .done (.ok ())
  · have htalks := hresumes [] (.ok (.ok ())) (hdone ▸ .done _)
    rw [List.append_nil] at htalks
    obtain ⟨count, missing, hbytes, hsuccess⟩ := delivered_of_talks haccepted htalks hdelivers
    obtain ⟨rfl, early, more, hmore, htotal⟩ := hsuccess rfl
    rw [List.append_nil] at hbytes
    obtain ⟨m, hloaded, hrun, hle, hall⟩ := take_beginning h rfl hidle hstopped hbytes
    rw [hmore] at hheard
    have hlength := length_answers_of_heard hidle hbytes hheard htotal
    obtain ⟨hunder, hstarted⟩ := hall (Nat.le_antisymm hle hlength)
    refine ⟨m, hloaded.le_length, hloaded, hrun, fun _ => ⟨hunder, ?_, hstarted⟩⟩
    rintro (hwanted | hnil)
    · exact (hrun (hstarted.trans hwanted)).2
    · rw [hnil] at hunder
      exact Nat.le_antisymm hloaded.le_length (List.drop_eq_nil_iff.1 hunder.symm)
  · obtain ⟨rest, r, hrest⟩ := exists_talks c.host
    obtain ⟨more, hmore⟩ := Delivers.exists_of rest
    obtain ⟨count, missing, hbytes, -⟩ := delivered_of_talks haccepted (hresumes rest r hrest) (hdelivers.append hmore)
    rw [List.append_assoc, List.append_assoc] at hbytes
    obtain ⟨m, hloaded, hrun, -, -⟩ := take_beginning h rfl hidle hstopped hbytes
    exact ⟨m, hloaded.le_length, hloaded, hrun, fun hhost => absurd hhost hdone⟩

/-- One byte that reads like a command, stored and started, where the acknowledgement of the first attempt to
synchronize is delayed until the second. -/
theorem upload_keeps_memory_late_ack :
    let opts : SessionOptions := ⟨0x200, 64, 5, 2, 0, true, false⟩
    let idle : Board := ⟨fun _ => 0, 0, .idle, false⟩
    refusal? opts [0xF0] = none ∧ ∃ c, Reaches ⟨upload opts [0xF0], [], idle, []⟩ c ∧ c.host = .done (.ok ()) ∧
      ∃ m, m ≤ 1 ∧ Loaded idle.memory 0x200 [0xF0] m c.board.memory ∧
        (c.board.started = true → true = true ∧ m = 1) ∧
        (c.host = .done (.ok ()) →
          c.toBoard = [0xF0].drop m ∧ (true = true ∨ c.toBoard = [] → m = 1) ∧ c.board.started = true) := by
  intro opts idle
  have haccepted : refusal? opts [0xF0] = none := by decide
  -- two attempts to synchronize, the version, the address, the page, its byte and the start
  have hreach : ∃ c, Reaches ⟨upload opts [0xF0], [], idle, []⟩ c ∧ c.host = .done (.ok ()) :=
    ⟨_, .head .send <| .head .take <| .head (.expire (.noResponse 5)) <| .head .note <| .head .pause <|
      .head .send <| .head .take <| .head .arrive <| .head .arrive <|
      .head .send <| .head .take <| .head .arrive <| .head .arrive <| .head .note <|
      .head .send <| .head .take <| .head .take <| .head .take <| .head .arrive <|
      .head .send <| .head .take <| .head .take <| .head .arrive <|
      .head .send <| .head .take <| .head .note <| .head .note <|
      .head .send <| .head .take <| .head .arrive <| .refl, rfl⟩
  obtain ⟨c, hreach, hhost⟩ := hreach
  exact ⟨haccepted, c, hreach, hhost, upload_keeps_memory haccepted rfl rfl hreach⟩

/-- An upload that has succeeded need not have stored its image. Nobody acknowledges the bytes of a page, so the last
of them may be under way when the host is done. -/
theorem succeeded_upload_under_way :
    let opts : SessionOptions := ⟨0x200, 64, 5, 2, 0, false, false⟩
    let idle : Board := ⟨fun _ => 0, 0, .idle, false⟩
    refusal? opts [0xF0] = none ∧ ∃ c, Reaches ⟨upload opts [0xF0], [], idle, []⟩ c ∧ c.host = .done (.ok ()) ∧
      c.toBoard = [0xF0] ∧ ∀ m, Loaded idle.memory 0x200 [0xF0] m c.board.memory → m ≠ 1 := by
  intro opts idle
  -- the synchronization, the version, the address, the page, and its byte, which is not taken
  have hreach : ∃ c, Reaches ⟨upload opts [0xF0], [], idle, []⟩ c ∧ c.host = .done (.ok ()) ∧ c.toBoard = [0xF0] ∧
      c.board.memory 0x200 = 0 :=
    ⟨_, .head .send <| .head .take <| .head .arrive <|
      .head .send <| .head .take <| .head .arrive <| .head .arrive <| .head .note <|
      .head .send <| .head .take <| .head .take <| .head .take <| .head .arrive <|
      .head .send <| .head .take <| .head .take <| .head .arrive <|
      .head .send <| .head .note <| .refl, rfl, rfl, rfl⟩
  obtain ⟨c, hreach, hhost, hunder, hmemory⟩ := hreach
  refine ⟨by decide, c, hreach, hhost, hunder, ?_⟩
  rintro m hloaded rfl
  have hstored : some 0xF0 = some (c.board.memory 0x200) := hloaded.stored 0 (by decide)
  rw [hmemory] at hstored
  exact absurd hstored (by decide)

end Joined

end Chip8
