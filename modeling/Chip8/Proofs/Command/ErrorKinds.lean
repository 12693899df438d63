import Chip8.Proofs.Assembly.LineByLine
import Chip8.Proofs.Command.Assembling

/-!
# The kind of an error on its way out

An error is wrapped a number of times between the line it comes from and the end of a command. Three questions
are asked of what arrives: which classified failure or bare kind it carries, whether it is of a given kind, and
whether it has been shown. Each is answered by a walk of its own along the links. A wrapper adds one link that no
walk but the last one stops at, so the first two come to the same however often the error was wrapped
(`kind_survives_wrapping`), and an assembly ends with the kind of the line it stopped at.
-/

namespace Chip8

/-- An error that is put on no other. -/
inductive ErrorCore where
  | plain (message : Bytes)
  | bare (kind : Kind)
  | classified (error : AsmError)
  deriving DecidableEq, Repr

namespace ErrorCore

def error : ErrorCore → ErrorChain
  | plain m => .plain m
  | bare k => .bare k
  | classified a => .classified a

def kind : ErrorCore → Kind
  | plain _ => .none
  | bare k => k
  | classified a => a.kind

theorem kind_error (core : ErrorCore) : core.error.kind = core.kind := by cases core <;> rfl

theorem is_error_iff {k : Kind} (hk : k ≠ .none) (core : ErrorCore) : core.error.is k = true ↔ core.kind = k := by
  cases core with
  | plain m => simpa [error, kind, ErrorChain.is, ErrorChain.links] using hk.symm
  | bare k' => simp [error, kind, ErrorChain.is, ErrorChain.links]
  | classified a => simp [error, kind, ErrorChain.is, ErrorChain.links]

end ErrorCore

inductive ErrorWrapper where
  | atLine (line : Int)
  | within (before after : Bytes)
  | reported
  deriving DecidableEq, Repr

namespace ErrorWrapper

def put : ErrorWrapper → ErrorChain → ErrorChain
  | atLine n, e => .atLine n e
  | within before after, e => .within before e after
  | reported, e => .reported e

theorem kind_put (w : ErrorWrapper) (e : ErrorChain) : (w.put e).kind = e.kind := by cases w <;> rfl

theorem is_put (k : Kind) (w : ErrorWrapper) (e : ErrorChain) : (w.put e).is k = e.is k := by cases w <;> rfl

theorem isReported_put (w : ErrorWrapper) (e : ErrorChain) :
    (w.put e).isReported = true ↔ w = .reported ∨ e.isReported = true := by
  cases w <;> simp [put, ErrorChain.isReported, ErrorChain.links]

end ErrorWrapper

namespace ErrorChain

/-- The error in its wrappers, of which the first is put on first. -/
def wrappedIn (e : ErrorChain) (wrappers : List ErrorWrapper) : ErrorChain := wrappers.foldl (fun e w => w.put e) e

/-- What no single wrapper changes, no number of them changes. -/
theorem apply_wrappedIn {α : Type} {f : ErrorChain → α}
    (hput : ∀ (w : ErrorWrapper) (e : ErrorChain), f (w.put e) = f e) (e : ErrorChain) (wrappers : List ErrorWrapper) :
    f (e.wrappedIn wrappers) = f e := by
  induction wrappers generalizing e with
  | nil => rfl
  | cons w wrappers ih => exact (ih (w.put e)).trans (hput w e)

theorem kind_wrappedIn (e : ErrorChain) (wrappers : List ErrorWrapper) : (e.wrappedIn wrappers).kind = e.kind :=
  apply_wrappedIn ErrorWrapper.kind_put e wrappers

theorem is_wrappedIn (k : Kind) (e : ErrorChain) (wrappers : List ErrorWrapper) :
    (e.wrappedIn wrappers).is k = e.is k :=
  apply_wrappedIn (ErrorWrapper.is_put k) e wrappers

theorem isReported_wrappedIn (e : ErrorChain) (wrappers : List ErrorWrapper) :
    (e.wrappedIn wrappers).isReported = true ↔ .reported ∈ wrappers ∨ e.isReported = true := by
  induction wrappers generalizing e with
  | nil => simp [wrappedIn]
  | cons w wrappers ih =>
    have hput := (ih (w.put e)).trans (or_congr_right (w.isReported_put e))
    rw [List.mem_cons, or_assoc, or_left_comm, eq_comm (a := ErrorWrapper.reported)]
    exact hput

theorem wrappedIn_is_iff (core : ErrorCore) (wrappers : List ErrorWrapper) {k : Kind} (hk : k ≠ .none) :
    (core.error.wrappedIn wrappers).is k = true ↔ (core.error.wrappedIn wrappers).kind = k := by
  rw [is_wrappedIn, kind_wrappedIn, core.kind_error]
  exact core.is_error_iff hk

end ErrorChain

/-! ### The end of an assembly -/

open Program

namespace Command.Asm

variable {σ : Type} {handle : Handler System σ} {s s' : σ}

theorem exists_run_of_build_error (hanswers : AnswersAll handle) (flags : AsmFlags) {path : Bytes} {source : Source}
    {e : BuildError} (hload : (Source.load path).run handle s = (.ok (.ok source), s'))
    (hbuild : build source.lines = .error e) :
    ∃ s'', (run flags path).run handle s = (.ok (.error (.reported e.chain)), s'') := by
  have hassemble : (assemble path).run handle s = (.ok (.error (.build e)), s') := by
    rw [assemble, run_bind_of_ok hload]
    simp only [Source.assemble, hbuild]
    rfl
  obtain ⟨-, s'', hrefuse, rfl⟩ := (keeps_refuse e.chain).exists_run hanswers s'
  exact ⟨s'', (run_of_unassembled hassemble flags _).trans hrefuse⟩

end Command.Asm

/-- However an error is wrapped, it keeps the kind it has at its core, it is of that kind and of no other, and it counts
as shown just if it was marked so. So an assembly that stops at a line ends with the kind of that line's error. -/
theorem kind_survives_wrapping :
    (∀ (core : ErrorCore) (wrappers : List ErrorWrapper),
      (core.error.wrappedIn wrappers).kind = core.kind ∧
      (∀ k, k ≠ .none → ((core.error.wrappedIn wrappers).is k = true ↔ (core.error.wrappedIn wrappers).kind = k)) ∧
      ((core.error.wrappedIn wrappers).isReported = true ↔ .reported ∈ wrappers)) ∧
    ∀ (σ : Type) (handle : Handler System σ) (s s' : σ) (flags : Command.AsmFlags) (path : Bytes) (source : Source)
      (n : Nat) (e : AsmError), AnswersAll handle → (Source.load path).run handle s = (.ok (.ok source), s') →
      build source.lines = .error (.atLine n e) →
      ∃ i line chain s'', n = i + 1 ∧ source.lines[i]? = some line ∧ encode line = .error e ∧
        (Command.Asm.run flags path).run handle s = (.ok (.error chain), s'') ∧ chain.kind = e.kind := by
  refine ⟨fun core wrappers => ⟨?_, ?_, ?_⟩, ?_⟩
  · rw [ErrorChain.kind_wrappedIn, core.kind_error]
  · intro k hk
    exact ErrorChain.wrappedIn_is_iff core wrappers hk
  · have hcore : core.error.isReported = false := by cases core <;> rfl
    simp [ErrorChain.isReported_wrappedIn, hcore]
  · intro σ handle s s' flags path source n e hanswers hload hbuild
    obtain ⟨i, line, hn, hline, hencode, -⟩ := build_eq_atLine_iff.1 hbuild
    obtain ⟨s'', hrun⟩ := Command.Asm.exists_run_of_build_error hanswers flags hload hbuild
    -- The chain that comes out is the line's error in two wrappers.
    have hchain : ErrorChain.reported (BuildError.atLine n e).chain =
        (ErrorCore.classified e).error.wrappedIn [.atLine n, .reported] := rfl
    refine ⟨i, line, _, s'', hn, hline, hencode, hrun, ?_⟩
    rw [hchain, ErrorChain.kind_wrappedIn]
    rfl

/-- A bare kind under two line numbers and a mark, and an assembly that stops at its second line. -/
theorem kind_survives_wrapping_offset_jump :
    let wrappers : List ErrorWrapper := [.atLine 3, .within (text "p: ") (text "!"), .reported, .atLine (-1)]
    let e := (ErrorCore.bare .wrongFormat).error.wrappedIn wrappers
    let w := World.ofFiles (FileTree.empty.install [text "p.c8asm"] (.regular (text "cls\njp V1, 2a0\nret")))
    (e.kind = .wrongFormat ∧ e.is .wrongFormat = true ∧ e.isReported = true) ∧
      ∃ chain w', (Command.Asm.run ⟨false, [], [], true⟩ (text "p.c8asm")).run World.handle w =
        (.ok (.error chain), w') ∧ chain.kind = .wrongRegister := by
  intro wrappers e w
  obtain ⟨hkind, his, hreported⟩ := kind_survives_wrapping.1 (.bare .wrongFormat) wrappers
  refine ⟨⟨hkind, (his .wrongFormat (by decide)).2 hkind, hreported.2 (by decide)⟩, ?_⟩
  let fault : AsmError := ⟨.wrongRegister, text "V1", text "jp: can't offset by V1, only by V0"⟩
  have hload : (Source.load (text "p.c8asm")).run World.handle w =
      (.ok (.ok ⟨[text "cls", text "jp V1, 2a0"], text "ret"⟩), w) := by rfl
  have hbuild : build [text "cls", text "jp V1, 2a0"] = .error (.atLine 2 fault) := by rfl
  obtain ⟨-, -, chain, w', -, -, -, hrun, hchain⟩ := kind_survives_wrapping.2 World World.handle w w
    ⟨false, [], [], true⟩ (text "p.c8asm") _ 2 fault World.answersAll_handle hload hbuild
  exact ⟨chain, w', hrun, hchain⟩

end Chip8
