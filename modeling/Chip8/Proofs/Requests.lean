import Chip8.Interaction

/-!
# The requests of a program

What a program does to its surroundings shows in the calls it makes, so a run can be judged by its calls without
a word on who answers them. The calls of a sequence are those of its parts one behind the other
(`exchanges_bind`).

Where the answers do not matter, nothing need be run. `Keeps P Q` says of a program that it makes no calls but such
as `P` allows and ends with a value that `Q` allows, whatever it is answered.
-/

namespace Chip8.Program

variable {I : Interface} {σ α β : Type} {handle : Handler I σ} {s s' : σ}

/-- The calls of a run and their answers. -/
def exchanges (handle : Handler I σ) : Program I α → σ → List ((op : I.Op) × Except Crash (I.Answer op))
  | done _, _ | halt _, _ => []
  | call op next, s =>
    ⟨op, (handle op s).1⟩ ::
      match handle op s with
      | (.ok answer, s') => exchanges handle (next answer) s'
      | (.error _, _) => []

theorem exchanges_bind (p : Program I α) (f : α → Program I β) (s : σ) :
    (p >>= f).exchanges handle s = p.exchanges handle s ++
      match p.run handle s with
      | (.ok a, s') => (f a).exchanges handle s'
      | (.error _, _) => [] := by
  induction p generalizing s with
  | done a => rfl
  | halt crash => rfl
  | call op next ih =>
    obtain ⟨result, s', hanswer⟩ : ∃ result s', handle op s = (result, s') := ⟨_, _, rfl⟩
    rw [call_bind, exchanges, exchanges, run, hanswer]
    cases result with
    | error crash => rfl
    | ok answer => exact congrArg (List.cons _) (ih answer s')

/-- The machine never breaks down: whatever it is asked, it answers. -/
def AnswersAll (handle : Handler I σ) : Prop := ∀ op s, ∃ answer s', handle op s = (.ok answer, s')

theorem run_call_of_ok {op : I.Op} {answer : I.Answer op} (h : handle op s = (.ok answer, s'))
    (next : I.Answer op → Program I α) : (call op next).run handle s = (next answer).run handle s' := by
  rw [run, h]

/-- Whatever it is answered, the program makes no calls but such as `P` allows, and it ends with a value that `Q`
allows. -/
def Keeps (P : I.Op → Prop) (Q : α → Prop) : Program I α → Prop
  | done a => Q a
  | halt _ => False
  | call op next => P op ∧ ∀ answer, (next answer).Keeps P Q

namespace Keeps

variable {P : I.Op → Prop} {Q : α → Prop} {R : β → Prop} {p : Program I α}

theorem bind {f : α → Program I β} (hp : p.Keeps P Q) (hf : ∀ a, Q a → (f a).Keeps P R) : (p >>= f).Keeps P R := by
  induction p with
  | done a => exact hf a hp
  | halt crash => exact hp.elim
  | call op next ih => exact ⟨hp.1, fun answer => ih answer (hp.2 answer)⟩

theorem imp {P' : I.Op → Prop} {Q' : α → Prop} (hp : p.Keeps P Q) (hP : ∀ op, P op → P' op) (hQ : ∀ a, Q a → Q' a) :
    p.Keeps P' Q' := by
  induction p with
  | done a => exact hQ a hp
  | halt crash => exact hp.elim
  | call op next ih => exact ⟨hP op hp.1, fun answer => ih answer (hp.2 answer)⟩

theorem of_mem_exchanges (hp : p.Keeps P Q) {r : (op : I.Op) × Except Crash (I.Answer op)}
    (hr : r ∈ p.exchanges handle s) : P r.1 := by
  induction p generalizing s with
  | done a => simp [exchanges] at hr
  | halt crash => exact hp.elim
  | call op next ih =>
    rw [exchanges, List.mem_cons] at hr
    rcases hr with rfl | hr
    · exact hp.1
    · split at hr
      · next answer s' _ => exact ih answer (hp.2 answer) hr
      · simp at hr

theorem of_run (hp : p.Keeps P Q) {a : α} (hrun : p.run handle s = (.ok a, s')) : Q a := by
  induction p generalizing s with
  | done b =>
    obtain ⟨hb, -⟩ := Prod.mk.inj hrun
    exact Except.ok.inj hb ▸ hp
  | halt crash => exact hp.elim
  | call op next ih =>
    rw [run] at hrun
    split at hrun
    · next answer s₁ _ => exact ih answer (hp.2 answer) hrun
    · cases (Prod.mk.inj hrun).1

theorem exists_exchanges_call {op : I.Op} {next : I.Answer op → Program I α} (hnext : ∀ answer, (next answer).Keeps P Q)
    (handle : Handler I σ) (s : σ) :
    ∃ rest, (call op next).exchanges handle s = ⟨op, (handle op s).1⟩ :: rest ∧ ∀ r ∈ rest, P r.1 := by
  rw [exchanges]
  refine ⟨_, rfl, fun r hr => ?_⟩
  split at hr
  · next answer s' _ => exact (hnext answer).of_mem_exchanges hr
  · simp at hr

/-- What no allowed call changes, no run changes. -/
theorem apply_run {γ : Type} {f : σ → γ} (hf : ∀ op s, P op → f (handle op s).2 = f s) (hp : p.Keeps P Q) (s : σ) :
    f (p.run handle s).2 = f s := by
  induction p generalizing s with
  | done a => rfl
  | halt crash => rfl
  | call op next ih =>
    have hstep := hf op s hp.1
    obtain ⟨result, s', hanswer⟩ : ∃ result s', handle op s = (result, s') := ⟨_, _, rfl⟩
    rw [run, hanswer]
    rw [hanswer] at hstep
    cases result with
    | error crash => exact hstep
    | ok answer => exact (ih answer (hp.2 answer) s').trans hstep

theorem exists_run (hp : p.Keeps P Q) (hanswers : AnswersAll handle) (s : σ) :
    ∃ a s', p.run handle s = (.ok a, s') ∧ Q a := by
  induction p generalizing s with
  | done a => exact ⟨a, s, rfl, hp⟩
  | halt crash => exact hp.elim
  | call op next ih =>
    obtain ⟨answer, s₁, hanswer⟩ := hanswers op s
    obtain ⟨a, s', hrun, ha⟩ := ih answer (hp.2 answer) s₁
    exact ⟨a, s', (run_call_of_ok hanswer next).trans hrun, ha⟩

end Keeps

end Chip8.Program
