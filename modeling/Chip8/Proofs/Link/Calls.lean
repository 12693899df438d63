import Chip8.Link.Basic

/-!
# The calls of a run

A program over a link leaves open what the link answers. `Talks p calls result` says that some run of
`p` makes exactly these calls, each with the answer it got, and ends with `result`. Nothing restricts
the answers, so a statement about every `Talks` holds for every link: one that follows a script of any
length, one that loses bytes, one with a board behind it. Notes for the log and pauses have no answer
that could matter and are left out of the calls.

A run of a sequence is a run of its parts one behind the other (`talks_bind`). A run under a handler is
one of the runs (`talks_run`), and a program always has one (`exists_talks`), whatever was answered
before.
-/

namespace Chip8

inductive LinkCall where
  | sent (bytes : Bytes) (result : Except LinkError Unit)
  | received (timeout : Int) (result : Except LinkError UInt8)

namespace LinkCall

/-- The bytes handed to the link, whether or not it took them. -/
def write? : LinkCall → Option Bytes
  | sent bytes _ => some bytes
  | received _ _ => none

/-- The byte that was read, if one came. -/
def byte? : LinkCall → Option UInt8
  | received _ (.ok b) => some b
  | received _ (.error _) | sent _ _ => none

end LinkCall

/-- The arguments of all sendings, in order. -/
def writes (calls : List LinkCall) : List Bytes := calls.filterMap LinkCall.write?

/-- The bytes that were read, in order. -/
def heard (calls : List LinkCall) : Bytes := calls.filterMap LinkCall.byte?

@[simp] theorem writes_nil : writes [] = [] := rfl

@[simp] theorem writes_sent (bytes : Bytes) (result : Except LinkError Unit) (calls : List LinkCall) :
    writes (.sent bytes result :: calls) = bytes :: writes calls := rfl

@[simp] theorem writes_received (timeout : Int) (result : Except LinkError UInt8) (calls : List LinkCall) :
    writes (.received timeout result :: calls) = writes calls := rfl

@[simp] theorem writes_append (first rest : List LinkCall) : writes (first ++ rest) = writes first ++ writes rest :=
  List.filterMap_append

@[simp] theorem heard_nil : heard [] = [] := rfl

@[simp] theorem heard_sent (bytes : Bytes) (result : Except LinkError Unit) (calls : List LinkCall) :
    heard (.sent bytes result :: calls) = heard calls := rfl

@[simp] theorem heard_ok (timeout : Int) (b : UInt8) (calls : List LinkCall) :
    heard (.received timeout (.ok b) :: calls) = b :: heard calls := rfl

@[simp] theorem heard_error (timeout : Int) (e : LinkError) (calls : List LinkCall) :
    heard (.received timeout (.error e) :: calls) = heard calls := rfl

@[simp] theorem heard_append (first rest : List LinkCall) : heard (first ++ rest) = heard first ++ heard rest :=
  List.filterMap_append

variable {α β : Type}

/-- Some run of the program makes these calls, is answered so, and ends with this result. -/
inductive Talks : Program Link α → List LinkCall → Except Crash α → Prop
  | done (a : α) : Talks (.done a) [] (.ok a)
  | halt (crash : Crash) : Talks (.halt crash) [] (.error crash)
  | send {bytes : Bytes} {next : Except LinkError Unit → Program Link α} {calls : List LinkCall}
      {r : Except Crash α} (result : Except LinkError Unit) (h : Talks (next result) calls r) :
      Talks (.call (.send bytes) next) (.sent bytes result :: calls) r
  | receive {timeout : Int} {next : Except LinkError UInt8 → Program Link α} {calls : List LinkCall}
      {r : Except Crash α} (result : Except LinkError UInt8) (h : Talks (next result) calls r) :
      Talks (.call (.receive timeout) next) (.received timeout result :: calls) r
  | note {line : Bytes} {next : Unit → Program Link α} {calls : List LinkCall} {r : Except Crash α}
      (h : Talks (next ()) calls r) : Talks (.call (.note line) next) calls r
  | pause {time : Int} {next : Unit → Program Link α} {calls : List LinkCall} {r : Except Crash α}
      (h : Talks (next ()) calls r) : Talks (.call (.pause time) next) calls r

/-! ### Runs of single calls and of sequences -/

@[simp] theorem talks_done {a : α} {calls : List LinkCall} {r : Except Crash α} :
    Talks (.done a) calls r ↔ calls = [] ∧ r = .ok a := by
  constructor
  · intro h
    cases h
    exact ⟨rfl, rfl⟩
  · rintro ⟨rfl, rfl⟩
    exact .done a

@[simp] theorem talks_pure {a : α} {calls : List LinkCall} {r : Except Crash α} :
    Talks (pure a) calls r ↔ calls = [] ∧ r = .ok a := talks_done

@[simp] theorem talks_send_bind {bytes : Bytes} {f : Except LinkError Unit → Program Link α} {calls : List LinkCall}
    {r : Except Crash α} : Talks (Link.send bytes >>= f) calls r ↔
      ∃ result rest, calls = .sent bytes result :: rest ∧ Talks (f result) rest r := by
  constructor
  · intro h
    cases h with
    | send result h => exact ⟨result, _, rfl, h⟩
  · rintro ⟨result, rest, rfl, h⟩
    exact .send result h

@[simp] theorem talks_receive_bind {timeout : Int} {f : Except LinkError UInt8 → Program Link α}
    {calls : List LinkCall} {r : Except Crash α} : Talks (Link.receive timeout >>= f) calls r ↔
      ∃ result rest, calls = .received timeout result :: rest ∧ Talks (f result) rest r := by
  constructor
  · intro h
    cases h with
    | receive result h => exact ⟨result, _, rfl, h⟩
  · rintro ⟨result, rest, rfl, h⟩
    exact .receive result h

@[simp] theorem talks_note_bind {line : Bytes} {f : Unit → Program Link α} {calls : List LinkCall}
    {r : Except Crash α} : Talks (Link.note line >>= f) calls r ↔ Talks (f ()) calls r := by
  constructor
  · intro h
    cases h with
    | note h => exact h
  · exact .note

@[simp] theorem talks_pause_bind {time : Int} {f : Unit → Program Link α} {calls : List LinkCall}
    {r : Except Crash α} : Talks (Link.pause time >>= f) calls r ↔ Talks (f ()) calls r := by
  constructor
  · intro h
    cases h with
    | pause h => exact h
  · exact .pause

/-- A run of a sequence ends with the fault of its first part, or is a run of the first part and then
one of the second. -/
theorem talks_bind {p : Program Link α} {f : α → Program Link β} {calls : List LinkCall} {r : Except Crash β}
    (h : Talks (p >>= f) calls r) :
    (∃ crash, r = .error crash ∧ Talks p calls (.error crash)) ∨
      ∃ a first rest, calls = first ++ rest ∧ Talks p first (.ok a) ∧ Talks (f a) rest r := by
  induction p generalizing calls with
  | done a => exact .inr ⟨a, [], calls, rfl, .done a, h⟩
  | halt crash =>
    cases h
    exact .inl ⟨crash, rfl, .halt crash⟩
  | call op next ih =>
    cases h with
    | send result h =>
      obtain ⟨crash, rfl, hp⟩ | ⟨a, first, rest, rfl, hp, hf⟩ := ih result h
      · exact .inl ⟨crash, rfl, .send result hp⟩
      · exact .inr ⟨a, _ :: first, rest, rfl, .send result hp, hf⟩
    | receive result h =>
      obtain ⟨crash, rfl, hp⟩ | ⟨a, first, rest, rfl, hp, hf⟩ := ih result h
      · exact .inl ⟨crash, rfl, .receive result hp⟩
      · exact .inr ⟨a, _ :: first, rest, rfl, .receive result hp, hf⟩
    | note h =>
      obtain ⟨crash, rfl, hp⟩ | ⟨a, first, rest, rfl, hp, hf⟩ := ih () h
      · exact .inl ⟨crash, rfl, .note hp⟩
      · exact .inr ⟨a, first, rest, rfl, .note hp, hf⟩
    | pause h =>
      obtain ⟨crash, rfl, hp⟩ | ⟨a, first, rest, rfl, hp, hf⟩ := ih () h
      · exact .inl ⟨crash, rfl, .pause hp⟩
      · exact .inr ⟨a, first, rest, rfl, .pause hp, hf⟩

/-! ### Every program has a run -/

theorem talks_run {σ : Type} {handle : Program.Handler Link σ}
    (hanswers : ∀ op s, ∃ answer s', handle op s = (.ok answer, s')) (p : Program Link α) (s : σ) :
    ∃ calls, Talks p calls (p.run handle s).1 := by
  induction p generalizing s with
  | done a => exact ⟨[], .done a⟩
  | halt crash => exact ⟨[], .halt crash⟩
  | call op next ih =>
    obtain ⟨answer, s', hanswer⟩ := hanswers op s
    obtain ⟨calls, h⟩ := ih answer s'
    simp only [Program.run, hanswer]
    cases op with
    | receive timeout => exact ⟨_, .receive answer h⟩
    | send bytes => exact ⟨_, .send answer h⟩
    | note line => exact ⟨_, .note h⟩
    | pause time => exact ⟨_, .pause h⟩

/-- Whatever a program has still to do, it can be brought to an end. -/
theorem exists_talks (p : Program Link α) : ∃ calls r, Talks p calls r := by
  induction p with
  | done a => exact ⟨_, _, .done a⟩
  | halt crash => exact ⟨_, _, .halt crash⟩
  | call op next ih =>
    cases op with
    | receive timeout =>
      obtain ⟨calls, r, h⟩ := ih (.ok 0)
      exact ⟨_, r, .receive _ h⟩
    | send bytes =>
      obtain ⟨calls, r, h⟩ := ih (.ok ())
      exact ⟨_, r, .send _ h⟩
    | note line =>
      obtain ⟨calls, r, h⟩ := ih ()
      exact ⟨_, r, .note h⟩
    | pause time =>
      obtain ⟨calls, r, h⟩ := ih ()
      exact ⟨_, r, .pause h⟩

end Chip8
