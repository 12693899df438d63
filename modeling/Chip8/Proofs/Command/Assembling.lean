import Chip8.Command.Asm
import Chip8.Proofs.Requests
import Chip8.World
import Mathlib.Tactic.SplitIfs

/-!
# Assembling on a machine

Assembling asks for nothing but its source, and telling why it failed asks for nothing but the second output. So
both change no file and print nothing, whatever machine they run on.

On a machine with a file tree, what assembling gives is a function of the files: of what the path leads to and of
its extension. This function is written down here, so that runs of the commands can be spoken of through it.
-/

namespace Chip8

namespace SystemOp

def isStore : SystemOp → Bool
  | store _ _ => true
  | _ => false

/-- Whether the request makes a file or writes to the first output. -/
def writes : SystemOp → Bool
  | store _ _ | print _ => true
  | _ => false

def Quiet (op : SystemOp) : Prop := op.writes = false

theorem Quiet.isStore_eq {op : SystemOp} (h : op.Quiet) : op.isStore = false := by
  cases op with
  | store path data => cases h
  | _ => rfl

end SystemOp

theorem Source.of_assemble_eq_ok {path : Bytes} {source : Source} {a : Assembled}
    (h : source.assemble path = .ok a) : a.source = source ∧ a.path = path ∧ build a.source.lines = .ok a.image := by
  unfold Source.assemble at h
  cases hbuild : build source.lines with
  | error e => simp [hbuild] at h
  | ok image =>
    obtain rfl : ⟨path, source, image⟩ = a := by simpa [hbuild] using h
    exact ⟨rfl, rfl, hbuild⟩

theorem keeps_assemble (path : Bytes) : (assemble path).Keeps SystemOp.Quiet fun r =>
    ∀ a, r = .ok a → a.path = path ∧ build a.source.lines = .ok a.image := by
  have hload : (Source.load path).Keeps SystemOp.Quiet fun _ => True := by
    refine ⟨rfl, fun found => ?_⟩
    cases found with
    | false => trivial
    | true =>
      show Program.Keeps _ _ (if Path.extension path = Source.extension then _ else _)
      split
      · refine ⟨rfl, fun answer => ?_⟩
        cases answer <;> trivial
      · trivial
  refine hload.bind fun loaded _ => ?_
  cases loaded with
  | error e => exact fun a ha => by cases ha
  | ok source => exact fun a ha => (Source.of_assemble_eq_ok ha).2

namespace Command.Asm

theorem keeps_refuse (e : ErrorChain) :
    (refuse e).Keeps SystemOp.Quiet (· = .error (.reported e)) :=
  ⟨rfl, fun _ => ⟨rfl, fun _ => rfl⟩⟩

theorem keeps_warnUnterminated (path rest : Bytes) :
    (warnUnterminated path rest).Keeps SystemOp.Quiet fun _ => True := by
  unfold warnUnterminated
  split
  · trivial
  · exact ⟨rfl, fun _ => trivial⟩

theorem keeps_report (r : Except ErrorChain Unit) :
    (report r).Keeps SystemOp.Quiet fun result => (∃ e, result = .error e) ↔ ∃ e, r = .error e := by
  cases r with
  | error e => exact (keeps_refuse e).imp (fun _ h => h) fun _ hresult => by simp [hresult]
  | ok _ => exact Iff.rfl

variable {σ : Type} {handle : Program.Handler System σ} {s s₁ s₂ : σ} {flags : AsmFlags} {path : Bytes} {a : Assembled}

theorem run_of_unassembled {e : AssembleError} (hassemble : (assemble path).run handle s = (.ok (.error e), s₁))
    (flags : AsmFlags) (draw : Table.Renderer) :
    (run flags path draw).run handle s = (refuse e.chain).run handle s₁ := by
  rw [run, Program.run_bind_of_ok hassemble]

theorem run_of_unknownMode {e : AsmError} (hassemble : (assemble path).run handle s = (.ok (.ok a), s₁))
    (hwarn : (warnUnterminated path a.source.rest).run handle s₁ = (.ok (), s₂))
    (hmode : chosenMode flags = .error e) (draw : Table.Renderer) :
    (run flags path draw).run handle s = (refuse (.classified e)).run handle s₂ := by
  rw [run, Program.run_bind_of_ok hassemble]
  show (deliver draw flags path a).run handle s₁ = _
  rw [deliver, Program.run_bind_of_ok hwarn, hmode]

theorem run_of_assembled {mode : Mode} (hassemble : (assemble path).run handle s = (.ok (.ok a), s₁))
    (hwarn : (warnUnterminated path a.source.rest).run handle s₁ = (.ok (), s₂))
    (hmode : chosenMode flags = .ok mode) (draw : Table.Renderer) :
    (run flags path draw).run handle s = (write draw flags mode a >>= report).run handle s₂ := by
  rw [run, Program.run_bind_of_ok hassemble]
  show (deliver draw flags path a).run handle s₁ = _
  rw [deliver, Program.run_bind_of_ok hwarn, hmode]

end Command.Asm

namespace World

theorem answersAll_handle : Program.AnswersAll handle := by
  intro op w
  cases op with
  | receive timeout => cases hincoming : w.incoming <;> simp [handle, hincoming]
  | _ => exact ⟨_, _, rfl⟩

theorem files_handle {op : SystemOp} (h : op.isStore = false) (w : World) : (handle op w).2.files = w.files := by
  cases op with
  | store path data => cases h
  | receive timeout => cases hincoming : w.incoming <;> simp [handle, hincoming]
  | _ => rfl

theorem files_run {α : Type} {Q : α → Prop} {p : Program System α}
    (hp : p.Keeps (fun op : SystemOp => op.isStore = false) Q) (w : World) : (p.run handle w).2.files = w.files :=
  hp.apply_run (fun _ w h => files_handle h w) w

variable (w : World)

theorem run_read (path : Bytes) : (System.read path).run handle w = (.ok (w.files.contents path), w) := rfl

theorem run_store (path data : Bytes) : (System.store path data).run handle w =
    (.ok (w.files.store path data).1, { w with files := (w.files.store path data).2 }) := rfl

end World

namespace FileTree

def loaded (t : FileTree) (path : Bytes) : Except AssembleError Source :=
  if t.isFile path then
    if Path.extension path = Source.extension then
      match t.contents path with
      | .ok data => .ok (Source.ofText data)
      | .error e => .error (.file e)
    else .error (.refused (wrongFormat path))
  else .error (.refused (fileMissing path))

def assembled (t : FileTree) (path : Bytes) : Except AssembleError Assembled :=
  match t.loaded path with
  | .ok source => source.assemble path
  | .error e => .error e

variable {t t' : FileTree} {path : Bytes} {a : Assembled}

theorem loaded_congr (h : t'.stat path = t.stat path) : t'.loaded path = t.loaded path := by
  unfold loaded isFile contents
  rw [h]

theorem isFile_iff : t.isFile path ↔ ∃ node, t.stat path = .ok node ∧ node ≠ .directory := by
  unfold isFile
  split <;> simp_all

theorem loaded_eq_ok {source : Source} (h : t.loaded path = .ok source) : t.isFile path ∧
    Path.extension path = Source.extension ∧ ∃ data, t.contents path = .ok data ∧ source = Source.ofText data := by
  unfold loaded at h
  split_ifs at h with hfile hext
  cases hdata : t.contents path with
  | error e => simp [hdata] at h
  | ok data =>
    rw [hdata] at h
    exact ⟨hfile, hext, data, rfl, (Except.ok.inj h).symm⟩

theorem assembled_eq_ok (ha : t.assembled path = .ok a) :
    t.loaded path = .ok a.source ∧ a.path = path ∧ build a.source.lines = .ok a.image := by
  unfold assembled at ha
  cases hload : t.loaded path with
  | error e => simp [hload] at ha
  | ok source =>
    rw [hload] at ha
    obtain ⟨rfl, hpath, hbuild⟩ := Source.of_assemble_eq_ok ha
    exact ⟨rfl, hpath, hbuild⟩

end FileTree

namespace World

theorem run_load (w : World) (path : Bytes) : (Source.load path).run handle w = (.ok (w.files.loaded path), w) := by
  show Program.run handle (if w.files.isFile path then _ else _) w = _
  unfold FileTree.loaded
  split
  · split
    · show Program.run handle (match w.files.contents path with | .ok data => _ | .error e => _) w = _
      cases w.files.contents path <;> rfl
    · rfl
  · rfl

theorem run_assemble (w : World) (path : Bytes) :
    (assemble path).run handle w = (.ok (w.files.assembled path), w) := by
  unfold assemble FileTree.assembled
  rw [Program.run_bind_of_ok (run_load w path)]
  cases w.files.loaded path <;> rfl

end World

end Chip8
