import Chip8.Proofs.Command.ImageFile

/-!
# What an assembly leaves behind

The requests of a run that make a file or print are its outputs. Loading, building and choosing the mode make
none, and neither does telling what went wrong. So the first output of a run is the one for the image, and it is made
only behind all that can be refused; behind it comes a listing at most, which cannot fail, since what was built has
two bytes for each line. All this is about the requests and holds on every machine, whatever it answers.

On a machine with a file tree, this comes to one file at most, which is named as an image.
-/

namespace Chip8

open Program

/-- The request was carried out or tried, and what came of it is an error. -/
def SystemOp.Failed : (op : SystemOp) × Except Crash op.Answer → Prop
  | ⟨.store _ _, .ok (.error _)⟩ | ⟨.print _, .ok (.error _)⟩ => True
  | _ => False

namespace Program

variable {σ α β : Type} {handle : Handler System σ} {P : α → Prop} {p : Program System α}
  {f : α → Program System β}

/-- The requests of a run that make a file or write to the first output, with their answers. -/
def outputs (handle : Handler System σ) (p : Program System α) (s : σ) :
    List ((op : SystemOp) × Except Crash op.Answer) :=
  (p.exchanges handle s).filter fun r => r.1.writes

theorem Keeps.outputs_eq_nil (hp : p.Keeps SystemOp.Quiet P) (s : σ) : p.outputs handle s = [] := by
  refine List.filter_eq_nil_iff.2 fun r hr => ?_
  rw [hp.of_mem_exchanges hr]
  exact Bool.false_ne_true

theorem outputs_quiet_bind (hp : p.Keeps SystemOp.Quiet P) (f : α → Program System β) (s : σ) :
    (p >>= f).outputs handle s =
      match p.run handle s with
      | (.ok a, s') => (f a).outputs handle s'
      | (.error _, _) => [] := by
  have hnone : (p.exchanges handle s).filter (fun r => r.1.writes) = [] := hp.outputs_eq_nil s
  obtain ⟨result, s', hrun⟩ : ∃ result s', p.run handle s = (result, s') := ⟨_, _, rfl⟩
  rw [outputs, exchanges_bind, List.filter_append, hnone, List.nil_append, hrun]
  cases result <;> rfl

theorem outputs_bind_quiet {Q : α → β → Prop} (hf : ∀ a, (f a).Keeps SystemOp.Quiet (Q a)) (s : σ) :
    (p >>= f).outputs handle s = p.outputs handle s := by
  rw [outputs, exchanges_bind, List.filter_append]
  split
  · next a s' _ =>
    have hnone : ((f a).exchanges handle s').filter (fun r => r.1.writes) = [] := (hf a).outputs_eq_nil s'
    rw [hnone, List.append_nil]
    rfl
  · exact List.append_nil _

end Program

namespace Command.Asm

variable {σ : Type} {handle : Handler System σ} {s s₁ s₂ : σ} {flags : AsmFlags} {mode : Mode} {path : Bytes}
  {a : Assembled}

def target (flags : AsmFlags) (path : Bytes) : Bytes := Image.fileName (imageName flags path)

/-! ### Modes -/

theorem mem_of_ofName {name : Bytes} (h : Mode.ofName name = .ok mode) : (mode, name) ∈ Mode.names := by
  unfold Mode.ofName at h
  cases hfind : Mode.names.find? fun entry => entry.2 = name with
  | none => simp [hfind] at h
  | some entry =>
    obtain rfl : entry.1 = mode := by simpa [hfind] using h
    obtain rfl : entry.2 = name := by simpa using List.find?_some hfind
    exact List.mem_of_find?_eq_some hfind

theorem exists_ofName_eq_error_iff {name : Bytes} :
    (∃ e, Mode.ofName name = .error e) ↔ name ∉ Mode.names.map Prod.snd := by
  unfold Mode.ofName
  cases hfind : Mode.names.find? fun entry => entry.2 = name with
  | none =>
    refine iff_of_true ⟨_, rfl⟩ fun hmem => ?_
    obtain ⟨entry, hentry, heq⟩ := List.mem_map.1 hmem
    exact List.find?_eq_none.1 hfind entry hentry (by simpa using heq)
  | some entry =>
    refine iff_of_false (fun ⟨e, he⟩ => by cases he) (not_not.2 ?_)
    exact List.mem_map.2 ⟨entry, List.mem_of_find?_eq_some hfind, by simpa using List.find?_some hfind⟩

theorem chosenMode_eq_ok (h : chosenMode flags = .ok mode) :
    (flags.mode = [] ∧ mode = if flags.stdout then .stdout else .binary) ∨ (mode, flags.mode) ∈ Mode.names := by
  unfold chosenMode at h
  split at h
  · next hempty => exact .inl ⟨List.isEmpty_iff.1 hempty, (Except.ok.inj h).symm⟩
  · exact .inr (mem_of_ofName h)

/-- The flags choose the mode that writes a file, by its name or by default. -/
def WritesFile (flags : AsmFlags) : Prop :=
  (flags.mode = [] ∧ flags.stdout = false) ∨ flags.mode = text "binary"

def NamesNoMode (flags : AsmFlags) : Prop :=
  flags.mode ≠ [] ∧ flags.mode ∉ Mode.names.map Prod.snd

theorem writesFile_iff : WritesFile flags ↔ chosenMode flags = .ok .binary := by
  constructor
  · rintro (⟨hmode, hstdout⟩ | hmode)
    · simp [chosenMode, hmode, hstdout]
    · rw [chosenMode, hmode]
      rfl
  · intro h
    obtain ⟨hmode, hchosen⟩ | hmem := chosenMode_eq_ok h
    · refine .inl ⟨hmode, ?_⟩
      by_contra hstdout
      rw [if_pos (by simpa using hstdout)] at hchosen
      cases hchosen
    · right
      simpa [Mode.names, Mode.binary, Mode.stdout, Mode.listing, Mode.hex] using hmem

theorem chosenMode_eq_listing_iff : chosenMode flags = .ok .listing ↔ flags.mode = text "listing" := by
  constructor
  · intro h
    obtain ⟨-, hchosen⟩ | hmem := chosenMode_eq_ok h
    · split at hchosen <;> cases hchosen
    · simpa [Mode.names, Mode.binary, Mode.stdout, Mode.listing, Mode.hex] using hmem
  · intro hmode
    rw [chosenMode, hmode]
    rfl

theorem namesNoMode_iff : NamesNoMode flags ↔ ∃ e, chosenMode flags = .error e := by
  unfold NamesNoMode chosenMode
  by_cases hmode : flags.mode = []
  · simp [hmode]
  · rw [if_neg (by simpa using hmode), exists_ofName_eq_error_iff]
    exact and_iff_right hmode

/-! ### Writing an image -/

/-- How an image is written in a mode. The first request is for the image, and an error in answer to it is the only
failure, unless the mode is that of listings. Behind it no file is made. -/
structure Writing (flags : AsmFlags) (a : Assembled) (mode : Mode) (op : SystemOp)
    (next : op.Answer → Program System (Except ErrorChain Unit)) : Prop where
  request : (mode = .binary ∧ op = .store (target flags a.path) a.image) ∨ (mode ≠ .binary ∧ ∃ t, op = .print t)
  fails : ∀ answer, mode ≠ .listing → SystemOp.Failed ⟨op, .ok answer⟩ → ∃ e, next answer = .done (.error e)
  succeeds : ∀ answer, mode = .listing ∨ ¬SystemOp.Failed ⟨op, .ok answer⟩ →
    (next answer).Keeps (fun op : SystemOp => op.isStore = false) (· = .ok ())

theorem keeps_listing (hbuild : build a.source.lines = .ok a.image) (draw : Table.Renderer) (flags : AsmFlags)
    (mode : Mode) :
    Keeps (fun op : SystemOp => op.isStore = false) (· = .ok ())
      (if flags.list ∧ mode ≠ .listing then printListing draw a else .done (.ok ())) := by
  obtain ⟨listed, hlisted⟩ := printListing_eq hbuild draw
  split
  · rw [hlisted]
    exact ⟨rfl, fun _ => rfl⟩
  · exact rfl

theorem exists_write_binary_eq (hbuild : build a.source.lines = .ok a.image) (draw : Table.Renderer) :
    ∃ op next, write draw flags .binary a = .call op next ∧ Writing flags a .binary op next := by
  refine ⟨.store (target flags a.path) a.image, _, rfl, .inl ⟨rfl, rfl⟩, ?_, ?_⟩
  · intro answer _ hfailed
    cases answer with
    | error e => exact ⟨_, rfl⟩
    | ok _ => exact hfailed.elim
  · intro answer hanswer
    cases answer with
    | error e => exact (hanswer.resolve_left (by decide) trivial).elim
    | ok _ => exact ⟨rfl, fun _ => keeps_listing hbuild draw flags .binary⟩

theorem exists_write_listing_eq (hbuild : build a.source.lines = .ok a.image) (draw : Table.Renderer) :
    ∃ op next, write draw flags .listing a = .call op next ∧ Writing flags a .listing op next := by
  obtain ⟨listed, hlisted⟩ := printListing_eq hbuild draw
  have hbehind := keeps_listing hbuild draw flags .listing
  rw [hlisted] at hbehind
  rw [write, writeImage, if_neg (by decide), if_pos rfl, hlisted]
  refine ⟨.print listed, _, rfl, .inr ⟨by decide, listed, rfl⟩, ?_, ?_⟩
  · intro answer hmode
    exact absurd rfl hmode
  · intro answer _
    exact hbehind

theorem exists_write_console_eq {shown : Bytes} (hbuild : build a.source.lines = .ok a.image)
    (hrender : Image.render mode a.image = .ok shown) (draw : Table.Renderer) :
    ∃ op next, write draw flags mode a = .call op next ∧ Writing flags a mode op next := by
  have hconsole := ne_of_render hrender
  have hbehind := keeps_listing hbuild draw flags mode
  rw [write, writeImage_of_render hrender]
  refine ⟨.print shown, _, rfl, .inr ⟨hconsole.1, shown, rfl⟩, ?_, ?_⟩
  · intro answer _ hfailed
    cases answer with
    | error e => exact ⟨_, rfl⟩
    | ok _ => exact hfailed.elim
  · intro answer hanswer
    cases answer with
    | error e => exact (hanswer.resolve_left hconsole.2 trivial).elim
    | ok _ => exact hbehind

theorem exists_write_eq (hbuild : build a.source.lines = .ok a.image) (hmode : chosenMode flags = .ok mode)
    (draw : Table.Renderer) : ∃ op next, write draw flags mode a = .call op next ∧ Writing flags a mode op next := by
  have hnamed : mode = .binary ∨ mode = .stdout ∨ mode = .listing ∨ mode = .hex := by
    obtain ⟨-, rfl⟩ | hmem := chosenMode_eq_ok hmode
    · by_cases hstdout : flags.stdout <;> simp [hstdout]
    · simp only [Mode.names, List.mem_cons, Prod.mk.injEq, List.not_mem_nil, or_false] at hmem
      tauto
  obtain rfl | rfl | rfl | rfl := hnamed
  · exact exists_write_binary_eq hbuild draw
  · exact exists_write_console_eq hbuild rfl draw
  · exact exists_write_listing_eq hbuild draw
  · exact exists_write_console_eq hbuild rfl draw

namespace Writing

variable {op : SystemOp} {next : op.Answer → Program System (Except ErrorChain Unit)}

theorem keeps_next (h : Writing flags a mode op next) (answer : op.Answer) :
    (next answer).Keeps (fun op : SystemOp => op.isStore = false) fun _ => True := by
  by_cases hanswer : mode = .listing ∨ ¬SystemOp.Failed ⟨op, .ok answer⟩
  · exact (h.succeeds answer hanswer).imp (fun _ h => h) fun _ _ => trivial
  · rw [not_or, not_not] at hanswer
    obtain ⟨e, he⟩ := h.fails answer hanswer.1 hanswer.2
    rw [he]
    trivial

theorem exists_outputs (h : Writing flags a mode op next) (handle : Handler System σ) (s : σ) :
    ∃ rest, (Program.call op next : Program System _).outputs handle s = ⟨op, (handle op s).1⟩ :: rest ∧
      ∀ r ∈ rest, r.1.isStore = false := by
  have hwrites : op.writes = true := by
    obtain ⟨-, rfl⟩ | ⟨-, t, rfl⟩ := h.request <;> rfl
  obtain ⟨rest, hrest, hstores⟩ := Keeps.exists_exchanges_call h.keeps_next handle s
  refine ⟨rest.filter fun r => r.1.writes, ?_, fun r hr => hstores r (List.mem_of_mem_filter hr)⟩
  rw [outputs, hrest]
  exact List.filter_cons_of_pos hwrites

/-- An error is the answer to the first request, and everything else is carried through. -/
theorem exists_run (h : Writing flags a mode op next) (hanswers : AnswersAll handle) {answer : op.Answer}
    (hanswer : handle op s = (.ok answer, s₁)) :
    ∃ r s', (Program.call op next : Program System _).run handle s = (.ok r, s') ∧
      ((∃ e, r = .error e) ↔ mode ≠ .listing ∧ SystemOp.Failed ⟨op, .ok answer⟩) := by
  have hcall : (Program.call op next : Program System _).run handle s = (next answer).run handle s₁ :=
    run_call_of_ok hanswer _
  by_cases hok : mode = .listing ∨ ¬SystemOp.Failed ⟨op, .ok answer⟩
  · obtain ⟨r, s', hrun, rfl⟩ := (h.succeeds answer hok).exists_run hanswers s₁
    refine ⟨_, s', hcall.trans hrun, ?_⟩
    simp only [reduceCtorEq, exists_false, false_iff, not_and]
    exact fun hmode => hok.resolve_left hmode
  · rw [not_or, not_not] at hok
    obtain ⟨e, he⟩ := h.fails answer hok.1 hok.2
    refine ⟨.error e, s₁, ?_, iff_of_true ⟨e, rfl⟩ hok⟩
    rw [hcall, he]
    rfl

/-- On a machine with a file tree, the image goes to its file or no file is touched. -/
theorem exists_run_world (h : Writing flags a mode op next) (w : World) :
    ∃ r w', (Program.call op next : Program System _).run World.handle w = (.ok r, w') ∧
      (mode = .binary → w'.files = (w.files.store (target flags a.path) a.image).2 ∧
        (r = .ok () ↔ (w.files.store (target flags a.path) a.image).1 = .ok ())) ∧
      (mode ≠ .binary → w'.files = w.files) := by
  obtain ⟨answer, w₁, hanswer⟩ := World.answersAll_handle op w
  obtain ⟨r, w', hrun, hr⟩ := h.exists_run World.answersAll_handle hanswer
  have hfiles : w'.files = w₁.files := by
    have hframe := World.files_run (h.keeps_next answer) w₁
    have hcall : (Program.call op next : Program System _).run World.handle w = (next answer).run World.handle w₁ :=
      run_call_of_ok hanswer _
    rwa [← hcall, hrun] at hframe
  refine ⟨r, w', hrun, ?_⟩
  obtain ⟨rfl, rfl⟩ | ⟨hmode, t, rfl⟩ := h.request
  · obtain ⟨hstored, rfl⟩ := Prod.mk.inj hanswer
    obtain rfl : (w.files.store (target flags a.path) a.image).1 = answer := Except.ok.inj hstored
    refine ⟨fun _ => ⟨hfiles, ?_⟩, fun hne => absurd rfl hne⟩
    generalize (w.files.store (target flags a.path) a.image).1 = answer at hr ⊢
    cases answer with
    | error e =>
      obtain ⟨e', rfl⟩ := hr.2 ⟨by decide, trivial⟩
      simp
    | ok _ =>
      cases r with
      | error e' => exact (hr.1 ⟨e', rfl⟩).2.elim
      | ok _ => exact iff_of_true rfl rfl
  · obtain ⟨-, rfl⟩ := Prod.mk.inj hanswer
    exact ⟨fun hbinary => absurd hbinary hmode, fun _ => hfiles⟩

end Writing

/-! ### The requests of a run -/

theorem outputs_of_assembled (hassemble : (assemble path).run handle s = (.ok (.ok a), s₁))
    (hwarn : (warnUnterminated path a.source.rest).run handle s₁ = (.ok (), s₂)) (hmode : chosenMode flags = .ok mode)
    (draw : Table.Renderer) :
    (run flags path draw).outputs handle s = (write draw flags mode a).outputs handle s₂ := by
  rw [run, outputs_quiet_bind (keeps_assemble path), hassemble]
  show (deliver draw flags path a).outputs handle s₁ = _
  rw [deliver, outputs_quiet_bind (keeps_warnUnterminated path a.source.rest), hwarn, hmode]
  exact outputs_bind_quiet keeps_report s₂

theorem outputs_run (handle : Handler System σ) (s : σ) (flags : AsmFlags) (path : Bytes) (draw : Table.Renderer) :
    (run flags path draw).outputs handle s = [] ∨ ∃ a mode s', ((assemble path).run handle s).1 = .ok (.ok a) ∧
      chosenMode flags = .ok mode ∧
      (run flags path draw).outputs handle s = (write draw flags mode a).outputs handle s' := by
  obtain ⟨result, s₁, hassemble⟩ : ∃ result s₁, (assemble path).run handle s = (result, s₁) := ⟨_, _, rfl⟩
  have hrun : (run flags path draw).outputs handle s = _ := outputs_quiet_bind (keeps_assemble path) _ s
  rw [hassemble] at hrun
  rcases result with crash | e | a
  · exact .inl hrun
  · exact .inl (hrun.trans ((keeps_refuse e.chain).outputs_eq_nil s₁))
  · obtain ⟨warned, s₂, hwarn⟩ : ∃ warned s₂, (warnUnterminated path a.source.rest).run handle s₁ = (warned, s₂) :=
      ⟨_, _, rfl⟩
    have hdeliver : (deliver draw flags path a).outputs handle s₁ = _ :=
      outputs_quiet_bind (keeps_warnUnterminated path a.source.rest) _ s₁
    rw [hwarn] at hdeliver
    rcases warned with crash | _
    · exact .inl (hrun.trans hdeliver)
    · cases hmode : chosenMode flags with
      | error e =>
        rw [hmode] at hdeliver
        exact .inl (hrun.trans (hdeliver.trans ((keeps_refuse _).outputs_eq_nil s₂)))
      | ok mode =>
        exact .inr ⟨a, mode, s₂, by rw [hassemble], rfl, outputs_of_assembled hassemble hwarn hmode draw⟩

/-- The first output of a run is for the image, and no other makes a file. -/
theorem outputs_run_cases (handle : Handler System σ) (s : σ) (flags : AsmFlags) (path : Bytes) (draw : Table.Renderer) :
    (run flags path draw).outputs handle s = [] ∨ ∃ a mode op answer rest,
      ((assemble path).run handle s).1 = .ok (.ok a) ∧ chosenMode flags = .ok mode ∧
      (run flags path draw).outputs handle s = ⟨op, answer⟩ :: rest ∧ (∀ r ∈ rest, r.1.isStore = false) ∧
      ((mode = .binary ∧ op = .store (target flags path) a.image) ∨ (mode ≠ .binary ∧ ∃ t, op = .print t)) := by
  obtain hnone | ⟨a, mode, s', hassemble, hmode, houtputs⟩ := outputs_run handle s flags path draw
  · exact .inl hnone
  · obtain ⟨rfl, hbuild⟩ := (keeps_assemble path).of_run (Prod.ext hassemble rfl) a rfl
    obtain ⟨op, next, hwrite, hwriting⟩ := exists_write_eq hbuild hmode draw
    obtain ⟨rest, hrest, hstores⟩ := hwriting.exists_outputs handle s'
    exact .inr ⟨a, mode, op, _, rest, hassemble, hmode, by rw [houtputs, hwrite, hrest], hstores, hwriting.request⟩

/-- On a machine that answers, a run fails for its source, for its mode or for the first output. -/
theorem exists_run (hanswers : AnswersAll handle) (s : σ) (flags : AsmFlags) (path : Bytes) (draw : Table.Renderer) :
    ∃ result s', (run flags path draw).run handle s = (.ok result, s') ∧ ((∃ e, result = .error e) ↔
      (∃ e, ((assemble path).run handle s).1 = .ok (.error e)) ∨ (∃ e, chosenMode flags = .error e) ∨
        chosenMode flags ≠ .ok .listing ∧
          ∃ r, ((run flags path draw).outputs handle s).head? = some r ∧ SystemOp.Failed r) := by
  obtain ⟨source, s₁, hassemble, -⟩ := (keeps_assemble path).exists_run hanswers s
  cases source with
  | error e =>
    obtain ⟨result, s', hrefuse, rfl⟩ := (keeps_refuse e.chain).exists_run hanswers s₁
    exact ⟨_, s', (run_of_unassembled hassemble flags draw).trans hrefuse,
      iff_of_true ⟨_, rfl⟩ (.inl ⟨e, by rw [hassemble]⟩)⟩
  | ok a =>
    obtain ⟨⟨⟩, s₂, hwarn, -⟩ := (keeps_warnUnterminated path a.source.rest).exists_run hanswers s₁
    cases hmode : chosenMode flags with
    | error e =>
      obtain ⟨result, s', hrefuse, rfl⟩ := (keeps_refuse (.classified e)).exists_run hanswers s₂
      exact ⟨_, s', (run_of_unknownMode hassemble hwarn hmode draw).trans hrefuse,
        iff_of_true ⟨_, rfl⟩ (.inr (.inl ⟨e, rfl⟩))⟩
    | ok mode =>
      obtain ⟨-, hbuild⟩ := (keeps_assemble path).of_run hassemble a rfl
      obtain ⟨op, next, hwrite, hwriting⟩ := exists_write_eq hbuild hmode draw
      obtain ⟨answer, s₃, hanswer⟩ := hanswers op s₂
      obtain ⟨r, s₄, hrun, hr⟩ := hwriting.exists_run hanswers hanswer
      obtain ⟨result, s', hreport, hresult⟩ := (keeps_report r).exists_run hanswers s₄
      obtain ⟨rest, houtputs, -⟩ := hwriting.exists_outputs handle s₂
      refine ⟨result, s', ?_, hresult.trans (hr.trans ?_)⟩
      · rw [run_of_assembled hassemble hwarn hmode, hwrite, run_bind_of_ok hrun, hreport]
      · rw [outputs_of_assembled hassemble hwarn hmode, hwrite, houtputs, hanswer, hassemble]
        simp

/-! ### On a machine with a file tree -/

/-- The ways a run can end on a machine with a file tree. -/
inductive Ending (flags : AsmFlags) (path : Bytes) (w : World) : Except ErrorChain Unit → World → Prop
  | refused {e : ErrorChain} {w' : World}
    (h : (∃ e, w.files.assembled path = .error e) ∨ ∃ e, chosenMode flags = .error e)
    (hfiles : w'.files = w.files) (hout : w'.out = w.out) : Ending flags path w (.error e) w'
  | filed {a : Assembled} {result : Except ErrorChain Unit} {w' : World} (ha : w.files.assembled path = .ok a)
    (hmode : chosenMode flags = .ok .binary) (hfiles : w'.files = (w.files.store (target flags path) a.image).2)
    (hresult : result = .ok () ↔ (w.files.store (target flags path) a.image).1 = .ok ()) :
    Ending flags path w result w'
  | printed {a : Assembled} {mode : Mode} {result : Except ErrorChain Unit} {w' : World}
    (ha : w.files.assembled path = .ok a) (hmode : chosenMode flags = .ok mode) (hconsole : mode ≠ .binary)
    (hfiles : w'.files = w.files) : Ending flags path w result w'

theorem run_refuse (w : World) (e : ErrorChain) :
    ∃ err, (refuse e).run World.handle w = (.ok (.error (.reported e)), { w with err }) :=
  ⟨_, rfl⟩

theorem exists_ending (flags : AsmFlags) (path : Bytes) (draw : Table.Renderer) (w : World) :
    ∃ result w', (run flags path draw).run World.handle w = (.ok result, w') ∧ Ending flags path w result w' := by
  have hassemble := World.run_assemble w path
  cases ha : w.files.assembled path with
  | error e =>
    rw [ha] at hassemble
    obtain ⟨err, hrefuse⟩ := run_refuse w e.chain
    exact ⟨_, _, (run_of_unassembled hassemble flags draw).trans hrefuse, .refused (.inl ⟨e, ha⟩) rfl rfl⟩
  | ok a =>
    rw [ha] at hassemble
    obtain ⟨-, hpath, hbuild⟩ := FileTree.assembled_eq_ok ha
    obtain ⟨err, hwarn⟩ := run_warnUnterminated w path a.source.rest
    cases hmode : chosenMode flags with
    | error e =>
      obtain ⟨err', hrefuse⟩ := run_refuse { w with err } (.classified e)
      exact ⟨_, _, (run_of_unknownMode hassemble hwarn hmode draw).trans hrefuse, .refused (.inr ⟨e, hmode⟩) rfl rfl⟩
    | ok mode =>
      obtain ⟨op, next, hwrite, hwriting⟩ := exists_write_eq hbuild hmode draw
      obtain ⟨r, w₁, hwritten, hfile, hconsole⟩ := hwriting.exists_run_world { w with err }
      obtain ⟨result, w', hreport, hresult⟩ := (keeps_report r).exists_run World.answersAll_handle w₁
      have hfiles : w'.files = w₁.files := by
        have hframe := World.files_run ((keeps_report r).imp (fun _ h => h.isStore_eq) fun _ h => h) w₁
        rwa [hreport] at hframe
      have hrun : (run flags path draw).run World.handle w = (.ok result, w') := by
        rw [run_of_assembled hassemble hwarn hmode, hwrite, run_bind_of_ok hwritten, hreport]
      refine ⟨result, w', hrun, ?_⟩
      by_cases hbinary : mode = .binary
      · obtain ⟨hstored, hr⟩ := hfile hbinary
        rw [hpath] at hstored hr
        refine .filed ha (hbinary ▸ hmode) (hfiles.trans hstored) (Iff.trans ?_ hr)
        cases result <;> cases r <;> simp_all
      · exact .printed ha hmode hbinary (hfiles.trans (hconsole hbinary))

theorem Ending.resolve_of_changed {result : Except ErrorChain Unit} {w w' : World} (h : Ending flags path w result w')
    {p : Place} (hp : w'.files.node? p ≠ w.files.node? p) :
    chosenMode flags = .ok .binary ∧ w.files.resolve (target flags path) = .ok p := by
  cases h with
  | filed ha hmode hfiles hresult => exact ⟨hmode, FileTree.resolve_of_node?_store_ne (hfiles ▸ hp)⟩
  | refused h hfiles hout => exact absurd (by rw [hfiles]) hp
  | printed ha hmode hconsole hfiles => exact absurd (by rw [hfiles]) hp

/-- In the mode that writes a file, a source that can be assembled goes to its file and nowhere else. -/
theorem Ending.files_eq_store {result : Except ErrorChain Unit} {w w' : World} (h : Ending flags path w result w')
    (ha : w.files.assembled path = .ok a) (hmode : chosenMode flags = .ok .binary) :
    w'.files = (w.files.store (target flags path) a.image).2 ∧
      (result = .ok () ↔ (w.files.store (target flags path) a.image).1 = .ok ()) := by
  cases h with
  | refused h hfiles hout => simp [ha, hmode] at h
  | filed ha' hmode' hfiles hresult =>
    obtain rfl := Except.ok.inj (ha'.symm.trans ha)
    exact ⟨hfiles, hresult⟩
  | printed ha' hmode' hconsole hfiles => exact absurd (Except.ok.inj (hmode'.symm.trans hmode)) hconsole

theorem Ending.unchanged_of_refused {result : Except ErrorChain Unit} {w w' : World} (h : Ending flags path w result w')
    (hrefused : (∃ e, w.files.assembled path = .error e) ∨ ∃ e, chosenMode flags = .error e) :
    (∃ e, result = .error e) ∧ w'.files = w.files ∧ w'.out = w.out := by
  cases h with
  | refused h hfiles hout => exact ⟨⟨_, rfl⟩, hfiles, hout⟩
  | filed ha hmode => simp [ha, hmode] at hrefused
  | printed ha hmode => simp [ha, hmode] at hrefused

theorem exists_getLast?_target {w : World} {p : Place} (h : w.files.resolve (target flags path) = .ok p) :
    ∃ stem, p.getLast? = some (stem ++ Image.extension) := by
  have hname : Path.IsName (Path.lastPart (target flags path)) := by
    apply Path.isName_lastPart
    rw [target, Image.extension_fileName]
    decide
  obtain ⟨stem, hstem⟩ := Image.exists_fileName_eq (imageName flags path)
  refine ⟨Path.lastPart stem, ?_⟩
  rw [FileTree.getLast?_of_resolve hname h, target, hstem, Path.lastPart_append (by decide)]

/-- Whatever machine it runs on, an assembly makes no file and prints nothing if its source gives no image or its mode
has no such name. In any run it makes one file at most, namely that of the image, under a name for images and in the
mode for it. On a machine that answers it comes to an end, and it fails just for its source, for its mode or for the
first output, so never for a listing, which can always be made of what was built. On a machine with a file tree this
means that one place is changed at most, even where the writing fails behind the making of the file. -/
theorem failing_assembly_leaves_no_trace (flags : AsmFlags) (path : Bytes) (draw : Table.Renderer) :
    (∀ (σ : Type) (handle : Handler System σ) (s : σ),
      let source := ((assemble path).run handle s).1
      let outputs := (run flags path draw).outputs handle s
      ((∀ a, source ≠ .ok (.ok a)) ∨ NamesNoMode flags → outputs = []) ∧
      outputs.countP (fun r => r.1.isStore) ≤ 1 ∧
      (∀ file data answer, ⟨.store file data, answer⟩ ∈ outputs → WritesFile flags ∧
        (∃ stem, file = stem ++ Image.extension) ∧ ∃ a, source = .ok (.ok a) ∧ data = a.image) ∧
      (AnswersAll handle → ∃ result s', (run flags path draw).run handle s = (.ok result, s') ∧
        ((∃ e, result = .error e) ↔ (∃ e, source = .ok (.error e)) ∨ NamesNoMode flags ∨
          flags.mode ≠ text "listing" ∧ ∃ r, outputs.head? = some r ∧ SystemOp.Failed r))) ∧
    (∀ lines image, build lines = .ok image → ∃ listed, Listing.render lines image draw = .ok listed) ∧
    ∀ w : World, ∃ result w', (run flags path draw).run World.handle w = (.ok result, w') ∧
      ((∃ e, ((assemble path).run World.handle w).1 = .ok (.error e)) ∨ NamesNoMode flags →
        (∃ e, result = .error e) ∧ w'.files = w.files ∧ w'.out = w.out) ∧
      (∀ p q, w'.files.node? p ≠ w.files.node? p → w'.files.node? q ≠ w.files.node? q → p = q) ∧
      ∀ p, w'.files.node? p ≠ w.files.node? p →
        WritesFile flags ∧ ∃ stem, p.getLast? = some (stem ++ Image.extension) := by
  refine ⟨fun σ handle s => ⟨?_, ?_, ?_, ?_⟩, fun lines image hbuild => exists_render_of_build hbuild draw, ?_⟩
  · intro hrefused
    obtain hnone | ⟨a, mode, op, answer, rest, hassemble, hmode, -⟩ := outputs_run_cases handle s flags path draw
    · exact hnone
    · rw [namesNoMode_iff, hmode] at hrefused
      simp [hassemble] at hrefused
  · obtain hnone | ⟨a, mode, op, answer, rest, -, -, houtputs, hstores, -⟩ := outputs_run_cases handle s flags path draw
    · simp [hnone]
    · have hrest : rest.countP (fun r => r.1.isStore) = 0 := List.countP_eq_zero.2 fun r hr => by simp [hstores r hr]
      rw [houtputs, List.countP_cons, hrest]
      split <;> simp
  · intro file data answer hmem
    obtain hnone | ⟨a, mode, op, answer', rest, hassemble, hmode, houtputs, hstores, hrequest⟩ :=
      outputs_run_cases handle s flags path draw
    · simp [hnone] at hmem
    · rw [houtputs, List.mem_cons] at hmem
      rcases hmem with hfirst | hmem
      · obtain ⟨rfl, hop⟩ | ⟨-, t, hop⟩ := hrequest
        · cases (congrArg Sigma.fst hfirst).trans hop
          exact ⟨writesFile_iff.2 hmode, Image.exists_fileName_eq _, a, hassemble, rfl⟩
        · cases (congrArg Sigma.fst hfirst).trans hop
      · cases hstores _ hmem
  · intro hanswers
    rw [namesNoMode_iff, ne_eq, ← chosenMode_eq_listing_iff]
    exact exists_run hanswers s flags path draw
  · intro w
    obtain ⟨result, w', hrun, hend⟩ := exists_ending flags path draw w
    refine ⟨result, w', hrun, ?_, ?_, ?_⟩
    · rw [World.run_assemble, namesNoMode_iff]
      simp only [Except.ok.injEq]
      exact hend.unchanged_of_refused
    · intro p q hp hq
      exact Except.ok.inj ((hend.resolve_of_changed hp).2.symm.trans (hend.resolve_of_changed hq).2)
    · intro p hp
      obtain ⟨hmode, hplace⟩ := hend.resolve_of_changed hp
      exact ⟨writesFile_iff.2 hmode, exists_getLast?_target hplace⟩

/-- A disk with room for three of the four bytes: the older image is gone, a part of the new one is there, and the
listing that was asked for is not printed. -/
theorem failing_assembly_leaves_no_trace_short_disk :
    let flags : AsmFlags := ⟨false, [], [], true⟩
    let files := (FileTree.empty.install [text "p.c8asm"] (.regular (text "cls\nret\n"))).install [text "p.c8x"]
      (.flawed (text "older") (.room 3))
    let w := World.ofFiles files
    ∃ e w', (run flags (text "p.c8asm")).run World.handle w = (.ok (.error e), w') ∧
      w'.files.contents (text "p.c8x") = .ok [0x00, 0xE0, 0x00] ∧ w'.out = [] ∧
      ∀ p, w'.files.node? p ≠ w.files.node? p → ∃ stem, p.getLast? = some (stem ++ Image.extension) := by
  intro flags files w
  obtain ⟨hrequests, -, hmachine⟩ := failing_assembly_leaves_no_trace flags (text "p.c8asm") Table.draw
  obtain ⟨-, -, -, hend⟩ := hrequests World World.handle w
  obtain ⟨result, w', hrun, hfails⟩ := hend World.answersAll_handle
  have houtputs : (run flags (text "p.c8asm")).outputs World.handle w =
      [⟨.store (text "p.c8x") [0x00, 0xE0, 0x00, 0xEE], .ok (.error ⟨.writing, text "p.c8x", .noSpace⟩)⟩] := by rfl
  have hfirst : ∃ r, ((run flags (text "p.c8asm")).outputs World.handle w).head? = some r ∧ SystemOp.Failed r :=
    ⟨_, congrArg List.head? houtputs, trivial⟩
  obtain ⟨e, rfl⟩ := hfails.2 (.inr (.inr ⟨by decide, hfirst⟩))
  obtain ⟨result', w'', hrun', -, -, hplaces⟩ := hmachine w
  obtain rfl : w' = w'' := (Prod.mk.inj (hrun.symm.trans hrun')).2
  have hw : w' = ((run flags (text "p.c8asm")).run World.handle w).2 := by rw [hrun]
  refine ⟨e, w', hrun, ?_, ?_, fun p hp => (hplaces p hp).2⟩
  · rw [hw]
    rfl
  · rw [hw]
    rfl

end Command.Asm

end Chip8
