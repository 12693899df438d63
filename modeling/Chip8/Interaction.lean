import Chip8.Text.Numeral

/-!
Programs that talk to their surroundings. An `Interface` lists the operations a program may call and
what each answers with. A `Program` is a tree: it is finished, or it makes one call and goes on with
whatever is answered, so all its behaviours are there to be looked at: a run is one path through the
tree. What the calls mean is said by a handler, and one program can be run under many.

A program may also halt at a place where it looks past the end of something; such a place is
written down as a `Crash` rather than left out.
-/

namespace Chip8

/-- A fault that ends a program on the spot. -/
inductive Crash where
  | indexOutOfRange (index : Int)
  | boundOutOfRange (bound : Int)
  | startOutOfRange (start : Int)
  | portNotOpen
  /-- A value of a type is to be remembered as a key, which it cannot be. -/
  | unhashable (type : Bytes)
  deriving DecidableEq, Repr

def Crash.message : Crash → Bytes
  | indexOutOfRange i => text "runtime error: index out of range [" ++ Numeral.signed i ++ text "]"
  | boundOutOfRange b => text "runtime error: slice bounds out of range [:" ++ Numeral.signed b ++ text "]"
  | startOutOfRange s => text "runtime error: slice bounds out of range [" ++ Numeral.signed s ++ text ":]"
  | portNotOpen => text "runtime error: invalid memory address or nil pointer dereference"
  | unhashable type => text "runtime error: hash of unhashable type " ++ type

/-- Operations and the type of answer to each. -/
structure Interface where
  Op : Type
  Answer : Op → Type

/-- A program that calls the operations of `I` and ends with a value. -/
inductive Program (I : Interface) (α : Type) where
  | done (value : α)
  | halt (crash : Crash)
  | call (op : I.Op) (next : I.Answer op → Program I α)

namespace Program

variable {I : Interface} {α β : Type}

/-- The program that makes one call and ends with its answer. -/
def perform (op : I.Op) : Program I (I.Answer op) := .call op .done

def andThen (f : α → Program I β) : Program I α → Program I β
  | done a => f a
  | halt crash => halt crash
  | call op next => call op fun answer => (next answer).andThen f

instance : Monad (Program I) where
  pure := done
  bind p f := p.andThen f

@[simp] theorem done_bind (a : α) (f : α → Program I β) : (done a >>= f) = f a := rfl

@[simp] theorem halt_bind (crash : Crash) (f : α → Program I β) : (halt crash >>= f) = halt crash := rfl

@[simp] theorem call_bind (op : I.Op) (next : I.Answer op → Program I α) (f : α → Program I β) :
    (call op next >>= f) = call op fun answer => next answer >>= f :=
  rfl

theorem id_map (p : Program I α) : id <$> p = p := by
  induction p with
  | done a => rfl
  | halt crash => rfl
  | call op next ih => exact congrArg (call op) (funext ih)

theorem bind_assoc {γ : Type} (p : Program I α) (f : α → Program I β) (g : β → Program I γ) :
    (p >>= f >>= g) = p >>= fun a => f a >>= g := by
  induction p with
  | done a => rfl
  | halt crash => rfl
  | call op next ih => exact congrArg (call op) (funext ih)

instance : LawfulMonad (Program I) := LawfulMonad.mk' _ id_map (fun _ _ => rfl) bind_assoc

/-- The program with each call carried out by a program over another interface. -/
def through {J : Interface} (serve : (op : I.Op) → Program J (I.Answer op)) : Program I α → Program J α
  | done a => done a
  | halt crash => halt crash
  | call op next => (serve op).andThen fun answer => (next answer).through serve

/-- What a state makes of each operation: an answer or a fault, and the next state. -/
abbrev Handler (I : Interface) (σ : Type) := (op : I.Op) → σ → Except Crash (I.Answer op) × σ

def run {σ : Type} (handle : Handler I σ) : Program I α → σ → Except Crash α × σ
  | done a, s => (.ok a, s)
  | halt crash, s => (.error crash, s)
  | call op next, s =>
    match handle op s with
    | (.ok answer, s') => run handle (next answer) s'
    | (.error crash, s') => (.error crash, s')

theorem run_bind_of_ok {σ : Type} {handle : Handler I σ} {s s' : σ} {p : Program I α} {a : α}
    (hp : p.run handle s = (.ok a, s')) (f : α → Program I β) :
    (p >>= f).run handle s = (f a).run handle s' := by
  induction p generalizing s with
  | done b =>
    obtain ⟨hb, rfl⟩ := Prod.mk.inj hp
    rw [done_bind, Except.ok.inj hb]
  | halt crash => cases (Prod.mk.inj hp).1
  | call op next ih =>
    rw [call_bind, run]
    rw [run] at hp
    split at hp
    · next answer after hanswer => exact ih answer hp
    · cases (Prod.mk.inj hp).1

end Program

end Chip8
