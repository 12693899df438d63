import Chip8.Proofs.Link.Plan
import Mathlib.Logic.Function.Basic

/-!
# The board

The other end of the link: a machine that takes one byte at a time. An idle board collects a command and
its arguments, carries the command out and answers with the acknowledgement, and with the version behind
it if that was asked for. A page command makes it store as many of the next bytes as it counts, from the
address that was set onwards, and these are not answered.

What a board makes of the bytes of an upload is said for every beginning of them (`take_beginning`):
its memory is what it was but for the first bytes of the image, it is started by the last byte only, and
once it has answered everything, all that it may still have to take are bytes of the last page.
-/

namespace Chip8

open Session

/-- What a board does with the next byte. -/
inductive Board.Mode where
  | idle
  | collecting (command : UInt8) (arguments : Bytes)
  | storing (left : Nat)

/-- A board that loads and runs images. -/
structure Board where
  memory : Nat → UInt8
  address : Nat
  mode : Board.Mode
  started : Bool

namespace Board

/-- Arguments as one number, the first byte being the highest. -/
def argumentValue (arguments : Bytes) : Nat := arguments.foldl (fun value b => value * 256 + b.toNat) 0

/-- The board that stores the next `left` bytes, if there are any to store. -/
def storing (left : Nat) (board : Board) : Board :=
  { board with mode := if left = 0 then .idle else .storing left }

def execute (command : UInt8) (arguments : Bytes) (board : Board) : Board :=
  if command = Protocol.setAddress then { board with address := argumentValue arguments, mode := .idle }
  else if command = Protocol.writePage then board.storing (argumentValue arguments)
  else if command = Protocol.run then { board with started := true, mode := .idle }
  else { board with mode := .idle }

def answer (command : UInt8) : Bytes :=
  if command = Protocol.getVersion then [Protocol.ack command, Protocol.version] else [Protocol.ack command]

/-- Carries out a command if its arguments are complete, and else waits for more of them. -/
def collect (command : UInt8) (arguments : Bytes) (board : Board) : Board × Bytes :=
  if Protocol.argumentCount? command = some arguments.length then (board.execute command arguments, answer command)
  else ({ board with mode := .collecting command arguments }, [])

/-- The board after one more byte, and what it answers. A byte that is no command is ignored. -/
def take (b : UInt8) (board : Board) : Board × Bytes :=
  match board.mode with
  | .idle => if (Protocol.argumentCount? b).isSome then board.collect b [] else (board, [])
  | .collecting command arguments => board.collect command (arguments ++ [b])
  | .storing left =>
    ({ board with memory := Function.update board.memory board.address b, address := board.address + 1 }.storing
      (left - 1), [])

def after (board : Board) : Bytes → Board
  | [] => board
  | b :: rest => (board.take b).1.after rest

def answers (board : Board) : Bytes → Bytes
  | [] => []
  | b :: rest => (board.take b).2 ++ (board.take b).1.answers rest

theorem after_append (board : Board) (first rest : Bytes) :
    board.after (first ++ rest) = (board.after first).after rest := by
  induction first generalizing board with
  | nil => rfl
  | cons b first ih => exact ih _

theorem answers_append (board : Board) (first rest : Bytes) :
    board.answers (first ++ rest) = board.answers first ++ (board.after first).answers rest := by
  induction first generalizing board with
  | nil => rfl
  | cons b first ih => simp only [List.cons_append, answers, after, ih, List.append_assoc]

/-! ### An idle board and the commands -/

variable {board : Board} (hidle : board.mode = .idle)

include hidle

theorem take_sync : board.take Protocol.sync = (board, [Protocol.ack Protocol.sync]) := by
  cases board
  cases hidle
  rfl

theorem take_getVersion :
    board.take Protocol.getVersion = (board, [Protocol.ack Protocol.getVersion, Protocol.version]) := by
  cases board
  cases hidle
  rfl

theorem take_run :
    board.take Protocol.run = ({ board with started := true }, [Protocol.ack Protocol.run]) := by
  cases board
  cases hidle
  rfl

theorem after_sync (count : Nat) : board.after (List.replicate count Protocol.sync) = board := by
  induction count with
  | zero => rfl
  | succ count ih =>
    rw [List.replicate_succ, after, take_sync hidle]
    exact ih

theorem answers_sync (count : Nat) :
    board.answers (List.replicate count Protocol.sync) = List.replicate count (Protocol.ack Protocol.sync) := by
  induction count with
  | zero => rfl
  | succ count ih =>
    rw [List.replicate_succ, answers, take_sync hidle, ih]
    rfl

/-! ### A page -/

omit hidle

/-- The commands of a page, before its bytes. -/
def header (page : Page) : Bytes :=
  [Protocol.setAddress, (page.address / 256).toUInt8, page.address.toUInt8, Protocol.writePage,
    page.payload.length.toUInt8]

include hidle

theorem after_header {page : Page} (haddress : page.address < 65536) (hlength : page.payload.length < 256) :
    board.after (header page) = { board with address := page.address }.storing page.payload.length := by
  have hvalue : argumentValue [(page.address / 256).toUInt8, page.address.toUInt8] = page.address := by
    simpa [argumentValue] using addressBytes_toNat haddress
  have hcount : argumentValue [page.payload.length.toUInt8] = page.payload.length := by
    simpa [argumentValue] using toNat_toUInt8 hlength
  calc board.after (header page)
      = { board with address := argumentValue [(page.address / 256).toUInt8, page.address.toUInt8] }.storing
          (argumentValue [page.payload.length.toUInt8]) := by
        cases board
        cases hidle
        rfl
    _ = _ := by rw [hvalue, hcount]

theorem answers_header (page : Page) :
    board.answers (header page) = [Protocol.ack Protocol.setAddress, Protocol.ack Protocol.writePage] := by
  cases board
  cases hidle
  rfl

/-- Before the last byte of the commands nothing is stored, and the page is not acknowledged. -/
theorem take_within_header {page : Page} {p p' : Bytes} (h : p ++ p' = header page) (hne : p' ≠ []) :
    (board.after p).memory = board.memory ∧ (board.after p).started = board.started ∧
      (board.answers p).length ≤ 1 := by
  have hp : p = (header page).take p.length := by rw [← h, List.take_left]
  have hlength : p.length < 5 := by
    have := congrArg List.length h
    have := List.length_pos_iff.2 hne
    simp [header] at *
    omega
  rw [hp]
  generalize p.length = j at hlength
  obtain rfl | rfl | rfl | rfl | rfl : j = 0 ∨ j = 1 ∨ j = 2 ∨ j = 3 ∨ j = 4 := by omega
  all_goals
    cases board
    cases hidle
    exact ⟨rfl, rfl, Nat.le_of_ble_eq_true rfl⟩

omit hidle

end Board

/-- The memory has the first `m` bytes of the image from `base` on, and is elsewhere as it was before. -/
structure Loaded (before : Nat → UInt8) (base : Nat) (image : Bytes) (m : Nat) (memory : Nat → UInt8) : Prop where
  stored : ∀ i, i < m → image[i]? = some (memory (base + i))
  kept : ∀ a, a < base ∨ base + m ≤ a → memory a = before a

namespace Loaded

variable {before memory : Nat → UInt8} {base m : Nat} {image : Bytes}

theorem zero : Loaded memory base image 0 memory :=
  ⟨fun i hi => absurd hi (Nat.not_lt_zero i), fun _ _ => rfl⟩

theorem le_length (h : Loaded before base image m memory) : m ≤ image.length := by
  rcases Nat.eq_zero_or_pos m with rfl | hm
  · exact Nat.zero_le _
  · have := (List.getElem?_eq_some_iff.1 (h.stored (m - 1) (by omega))).1
    omega

theorem store (h : Loaded before base image m memory) {b : UInt8} (hb : image[m]? = some b) :
    Loaded before base image (m + 1) (Function.update memory (base + m) b) := by
  constructor
  · intro i hi
    by_cases him : i = m
    · rw [him, Function.update_self, hb]
    · rw [Function.update_of_ne (by omega)]
      exact h.stored i (by omega)
  · intro a ha
    rw [Function.update_of_ne (by omega)]
    exact h.kept a (by omega)

end Loaded

namespace Board

variable {board : Board} {before : Nat → UInt8} {opts : SessionOptions} {image : Bytes}

/-- A board that stores takes bytes of the image one behind the other, and is idle behind the last. -/
theorem take_payload {m left : Nat} {w : Bytes} {base : Nat} (haddress : board.address = base + m)
    (hloaded : Loaded before base image m board.memory) (hw : w <+: image.drop m) (hleft : w.length ≤ left) :
    Loaded before base image (m + w.length) ((board.storing left).after w).memory ∧
      ((board.storing left).after w).started = board.started ∧
      (w.length = left → ((board.storing left).after w).mode = .idle) ∧ (board.storing left).answers w = [] := by
  induction w generalizing board m left with
  | nil =>
    refine ⟨hloaded, rfl, fun hleft => ?_, rfl⟩
    simp [after, storing, ← hleft]
  | cons b w ih =>
    have hpos : left ≠ 0 := by
      simp at hleft
      omega
    have htake : (board.storing left).take b =
        ({ board with memory := Function.update board.memory board.address b, address := board.address + 1 }.storing
          (left - 1), []) := by
      simp [take, storing, hpos]
    obtain ⟨rest, hrest⟩ := hw
    have hb : image[m]? = some b := by
      rw [← Nat.add_zero m, ← List.getElem?_drop, ← hrest]
      rfl
    have hnext : w <+: image.drop (m + 1) := by
      rw [← List.drop_drop, ← hrest]
      exact List.prefix_append w rest
    have haddress' : Board.address ⟨Function.update board.memory board.address b, board.address + 1, board.mode,
        board.started⟩ = base + (m + 1) := by
      rw [haddress, Nat.add_assoc]
    obtain ⟨hmemory, hstarted, hmode, hanswers⟩ := ih haddress' (by rw [haddress]; exact hloaded.store hb) hnext
      (show w.length ≤ left - 1 by simp at hleft; omega)
    rw [after, answers, htake, List.length_cons]
    refine ⟨by rwa [show m + (w.length + 1) = m + 1 + w.length by omega], hstarted, fun hlength => hmode (by omega), ?_⟩
    exact hanswers

/-! ### The pages of an image -/

variable (opts image) in
/-- The bytes of the page with number `k`, commands and all. -/
def pageBytes (k : Nat) : Bytes := header (pageAt opts image k) ++ (pageAt opts image k).payload

variable (opts image) in
/-- How much of the image the first `k` pages carry. -/
def carried (k : Nat) : Nat := min (k * opts.chunkSize.toNat) image.length

theorem carried_succ (k : Nat) :
    carried opts image (k + 1) = carried opts image k + (pageAt opts image k).payload.length := by
  simp only [carried, pageAt, Bytes.chunk, List.length_take, List.length_drop, Nat.succ_mul]
  omega

theorem carried_of_lt (h : Accepted opts image) {k : Nat} (hk : k < pageCount opts image) :
    carried opts image k = k * opts.chunkSize.toNat := by
  have := (Bytes.lt_chunkCount_iff h.size_pos).1 hk
  simp only [carried]
  omega

theorem carried_pageCount (h : Accepted opts image) : carried opts image (pageCount opts image) = image.length := by
  have := Bytes.le_chunkCount_mul h.size_pos image.length
  simp only [carried, pageCount]
  omega

theorem drop_carried (h : Accepted opts image) {k : Nat} (hk : k < pageCount opts image) :
    image.drop (carried opts image k) =
      (pageAt opts image k).payload ++ image.drop (carried opts image (k + 1)) := by
  rw [carried_succ, carried_of_lt h hk, ← List.drop_drop, pageAt, Bytes.chunk, List.length_take]
  generalize image.drop (k * opts.chunkSize.toNat) = rest
  by_cases hle : opts.chunkSize.toNat ≤ rest.length
  · rw [Nat.min_eq_left hle, List.take_append_drop]
  · rw [Nat.min_eq_right (by omega), List.drop_length, List.append_nil, List.take_of_length_le (by omega)]

variable {base : Nat} (h : Accepted opts image) (hbase : base = opts.loadBase.toNat)

include h hbase

theorem take_header_append {k : Nat} (hk : k < pageCount opts image) (hidle : board.mode = .idle)
    (hloaded : Loaded before base image (carried opts image k) board.memory) {w p' : Bytes}
    (hw : (pageAt opts image k).payload = w ++ p') :
    let reached := board.after (header (pageAt opts image k) ++ w)
    Loaded before base image (carried opts image k + w.length) reached.memory ∧
      reached.started = board.started ∧ (p' = [] → reached.mode = .idle) ∧
      (board.answers (header (pageAt opts image k) ++ w)).length = 2 ∧
      image.drop (carried opts image k + w.length) = p' ++ image.drop (carried opts image (k + 1)) := by
  have hlength := (h.length_payload hk).2
  have haddress := h.address_lt hk
  simp only [memoryEnd] at haddress
  have hheader := after_header hidle (show (pageAt opts image k).address < 65536 by omega)
    (show (pageAt opts image k).payload.length < 256 by omega)
  have hdrop := drop_carried h hk
  rw [hw, List.append_assoc] at hdrop
  have hstart : Board.address { board with address := (pageAt opts image k).address } =
      base + carried opts image k := by
    rw [carried_of_lt h hk, hbase]
    rfl
  have hpayload : (pageAt opts image k).payload.length = w.length + p'.length := by
    rw [hw, List.length_append]
  obtain ⟨hmemory, hstarted, hmode, hanswers⟩ := take_payload hstart hloaded
    (show w <+: image.drop (carried opts image k) from ⟨_, hdrop.symm⟩)
    (show w.length ≤ (pageAt opts image k).payload.length by omega)
  rw [after_append, answers_append, hheader, answers_header hidle, hanswers]
  refine ⟨hmemory, hstarted, fun hp' => hmode (by simp [hpayload, hp']), rfl, ?_⟩
  rw [← List.drop_drop, hdrop, List.drop_left]

/-- A beginning of a page: its commands are not complete, or some of its bytes are stored. -/
theorem take_within_page {k : Nat} (hk : k < pageCount opts image) (hidle : board.mode = .idle)
    (hloaded : Loaded before base image (carried opts image k) board.memory) {p p' : Bytes}
    (hp : p ++ p' = pageBytes opts image k) :
    ∃ m, Loaded before base image m (board.after p).memory ∧ (board.after p).started = board.started ∧
      (board.answers p).length ≤ 2 ∧
      ((board.answers p).length = 2 → image.drop m = p' ++ image.drop (carried opts image (k + 1))) := by
  obtain ⟨s, hheader, rfl⟩ | ⟨w, rfl, hpayload⟩ := List.append_eq_append_iff.1 hp
  · by_cases hs : s = []
    · subst hs
      rw [List.append_nil] at hheader
      obtain ⟨hmemory, hstarted, -, hanswers, hdrop⟩ := take_header_append h hbase hk hidle hloaded (List.nil_append _).symm
      rw [List.append_nil, hheader] at hmemory hstarted hanswers
      exact ⟨_, hmemory, hstarted, by omega, fun _ => hdrop⟩
    · obtain ⟨hmemory, hstarted, hanswers⟩ := take_within_header hidle hheader.symm hs
      exact ⟨_, by rwa [hmemory], hstarted, by omega, fun _ => by omega⟩
  · obtain ⟨hmemory, hstarted, -, hanswers, hdrop⟩ := take_header_append h hbase hk hidle hloaded hpayload
    exact ⟨_, hmemory, hstarted, by omega, fun _ => hdrop⟩

/-- The first pages: the board is idle behind them and has what they carry. -/
theorem take_pages {n : Nat} (hn : n ≤ pageCount opts image) (hidle : board.mode = .idle)
    (hloaded : Loaded before base image 0 board.memory) :
    let reached := board.after ((List.range n).flatMap (pageBytes opts image))
    reached.mode = .idle ∧ reached.started = board.started ∧
      Loaded before base image (carried opts image n) reached.memory ∧
      (board.answers ((List.range n).flatMap (pageBytes opts image))).length = 2 * n := by
  induction n with
  | zero =>
    refine ⟨hidle, rfl, ?_, rfl⟩
    rw [carried, Nat.zero_mul, Nat.zero_min]
    exact hloaded
  | succ n ih =>
    obtain ⟨hmode, hstarted, hmemory, hanswers⟩ := ih (by omega)
    obtain ⟨hmemory', hstarted', hmode', hanswers', -⟩ :=
      take_header_append h hbase hn hmode hmemory (List.append_nil _).symm
    rw [List.range_succ, List.flatMap_append, List.flatMap_singleton, after_append, answers_append, List.length_append,
      hanswers, pageBytes, hanswers', carried_succ]
    exact ⟨hmode' rfl, hstarted'.trans hstarted, hmemory', by omega⟩

omit h hbase

/-! ### A beginning of an upload -/

/-- A beginning of some pieces and a rest lies within a piece, or takes in all of the pieces. -/
theorem within_or_beyond {f : Nat → Bytes} {n : Nat} {q q' tail : Bytes}
    (hq : q ++ q' = (List.range n).flatMap f ++ tail) :
    (∃ k p p', k < n ∧ q = (List.range k).flatMap f ++ p ∧ p ++ p' = f k ∧ p' ≠ []) ∨
      ∃ p, q = (List.range n).flatMap f ++ p ∧ p ++ q' = tail := by
  induction n generalizing tail with
  | zero => exact .inr ⟨q, rfl, hq⟩
  | succ n ih =>
    rw [List.range_succ, List.flatMap_append, List.flatMap_singleton, List.append_assoc] at hq
    rw [List.range_succ, List.flatMap_append, List.flatMap_singleton]
    obtain ⟨k, p, p', hk, hbefore, hp, hne⟩ | ⟨p, rfl, hp⟩ := ih hq
    · exact .inl ⟨k, p, p', by omega, hbefore, hp, hne⟩
    · obtain ⟨s, hs, rfl⟩ | ⟨s, rfl, hs⟩ := List.append_eq_append_iff.1 hp
      · by_cases hne : s = []
        · subst hne
          exact .inr ⟨[], by simp [hs], rfl⟩
        · exact .inl ⟨n, p, s, by omega, rfl, hs.symm, hne⟩
      · exact .inr ⟨s, by simp, hs.symm⟩

variable (opts image) in
/-- The bytes of an upload behind the synchronization. -/
def planBytes : Bytes := (plan opts image).flatMap Exchange.bytes

variable (opts) in
def startBytes : Bytes := if opts.run then [Protocol.run] else []

theorem planBytes_eq : planBytes opts image =
    Protocol.getVersion :: ((List.range (pageCount opts image)).flatMap (pageBytes opts image) ++ startBytes opts) := by
  have hpage (k : Nat) : (pageAt opts image k).exchanges.flatMap Exchange.bytes = pageBytes opts image k := by
    simp [Page.exchanges, Exchange.ofCommand, pageBytes, header]
  have hstart : (if opts.run then [Exchange.start] else []).flatMap Exchange.bytes = startBytes opts := by
    unfold startBytes
    split <;> rfl
  rw [planBytes, plan, List.flatMap_cons, List.flatMap_append, hstart, pageExchanges, List.flatMap_assoc]
  simp only [hpage]
  rfl

theorem append_eq_startBytes {p p' : Bytes} (hp : p ++ p' = startBytes opts) :
    (p = [] ∧ p' = startBytes opts) ∨ (p = [Protocol.run] ∧ p' = [] ∧ opts.run = true) := by
  cases p with
  | nil => exact .inl ⟨rfl, hp⟩
  | cons b p =>
    unfold startBytes at hp
    split at hp
    · next hrun =>
      obtain ⟨rfl, hnil⟩ := List.cons.inj hp
      obtain ⟨rfl, rfl⟩ := List.append_eq_nil_iff.1 hnil
      exact .inr ⟨rfl, rfl, hrun⟩
    · cases hp

theorem length_startBytes : (startBytes opts).length = if opts.run then 1 else 0 := by
  unfold startBytes
  split <;> rfl

variable (opts image) in
/-- How many bytes answer an upload behind the synchronization. -/
def replyCount : Nat := 2 + 2 * pageCount opts image + (startBytes opts).length

include h hbase

theorem take_within_plan (hidle : board.mode = .idle) (hstarted : board.started = false) {q q' : Bytes}
    (hq : q ++ q' = planBytes opts image) :
    ∃ m, Loaded board.memory base image m (board.after q).memory ∧
      ((board.after q).started = true → opts.run = true ∧ m = image.length) ∧
      (board.answers q).length ≤ replyCount opts image ∧
      ((board.answers q).length = replyCount opts image → q' = image.drop m ∧ (board.after q).started = opts.run) := by
  rw [planBytes_eq] at hq
  cases q with
  | nil =>
    refine ⟨0, .zero, by simp [after, hstarted], Nat.zero_le _, fun hall => ?_⟩
    simp [answers, replyCount] at hall
    omega
  | cons b q =>
    rw [List.cons_append] at hq
    obtain ⟨rfl, hpages⟩ := List.cons.inj hq
    simp only [after, answers, take_getVersion hidle, List.length_append, List.length_cons, List.length_nil, replyCount]
    obtain ⟨k, p, p', hk, rfl, hp, -⟩ | ⟨p, rfl, hp⟩ := within_or_beyond hpages
    · -- the board is within page `k`, so it is not started and at most this page is acknowledged
      obtain ⟨hmode, hstarted', hmemory, hanswers⟩ := take_pages h hbase (Nat.le_of_lt hk) hidle .zero
      obtain ⟨m, hloaded, hsame, hle, hdrop⟩ := take_within_page h hbase hk hmode hmemory hp
      rw [hstarted', hstarted] at hsame
      rw [after_append, answers_append, List.length_append, hanswers]
      refine ⟨m, hloaded, by simp [hsame], by omega, fun hall => ?_⟩
      obtain ⟨hlast, hsecond, hnostart⟩ : k + 1 = pageCount opts image ∧
          ((board.after ((List.range k).flatMap (pageBytes opts image))).answers p).length = 2 ∧
          (startBytes opts).length = 0 := by omega
      have hq' : q' = p' := by
        rw [← hlast, List.range_succ, List.flatMap_append, List.flatMap_singleton, ← hp,
          List.eq_nil_of_length_eq_zero hnostart, List.append_nil, List.append_assoc] at hpages
        exact List.append_cancel_left (List.append_cancel_left hpages)
      rw [hq', hdrop hsecond, hlast, carried_pageCount h, List.drop_length, List.append_nil]
      refine ⟨rfl, ?_⟩
      rw [length_startBytes] at hnostart
      simpa [hsame] using hnostart
    · -- all pages are stored, and only the command to start can be left
      obtain ⟨hmode, hstarted', hmemory, hanswers⟩ := take_pages h hbase (Nat.le_refl _) hidle .zero
      rw [carried_pageCount h] at hmemory
      rw [hstarted] at hstarted'
      rw [after_append, answers_append, List.length_append, hanswers]
      obtain ⟨rfl, rfl⟩ | ⟨rfl, rfl, hrun⟩ := append_eq_startBytes hp
      · refine ⟨image.length, hmemory, by simp [after, hstarted'], ?_, fun hall => ?_⟩
        · simp only [answers, List.length_nil]
          omega
        · have hnostart : (startBytes opts).length = 0 := by
            simp only [answers, List.length_nil] at hall
            omega
          rw [List.drop_length, List.eq_nil_of_length_eq_zero hnostart]
          refine ⟨rfl, ?_⟩
          rw [length_startBytes] at hnostart
          simpa [after, hstarted'] using hnostart
      · have hone : (startBytes opts).length = 1 := by rw [length_startBytes, if_pos hrun]
        simp only [after, answers, take_run hmode]
        refine ⟨image.length, hmemory, fun _ => ⟨hrun, rfl⟩, ?_, fun _ => ⟨by rw [List.drop_length], hrun.symm⟩⟩
        simp only [List.append_nil, List.length_cons, List.length_nil]
        omega

/-- A board after any beginning of what an upload can deliver: some synchronizing commands and then the
bytes of the plan. -/
theorem take_beginning (hidle : board.mode = .idle) (hstarted : board.started = false) {count : Nat} {q q' : Bytes}
    (hq : q ++ q' = List.replicate count Protocol.sync ++ planBytes opts image) :
    ∃ m, Loaded board.memory base image m (board.after q).memory ∧
      ((board.after q).started = true → opts.run = true ∧ m = image.length) ∧
      (board.answers q).length ≤ count + replyCount opts image ∧
      ((board.answers q).length = count + replyCount opts image →
        q' = image.drop m ∧ (board.after q).started = opts.run) := by
  obtain ⟨s, hs, rfl⟩ | ⟨q, rfl, hplan⟩ := List.append_eq_append_iff.1 hq
  · obtain ⟨hlength, hsync, -⟩ := List.append_eq_replicate_iff.1 hs.symm
    rw [hsync, after_sync hidle, answers_sync hidle, List.length_replicate]
    refine ⟨0, .zero, by simp [hstarted], by omega, fun hall => ?_⟩
    simp only [replyCount] at hall
    omega
  · obtain ⟨m, hloaded, hrun, hle, hall⟩ := take_within_plan h hbase hidle hstarted hplan.symm
    rw [after_append, answers_append, after_sync hidle, answers_sync hidle, List.length_append, List.length_replicate]
    exact ⟨m, hloaded, hrun, by omega, fun htotal => hall (by omega)⟩

end Board

end Chip8
