/-!
Computations as data. A script is done, or asks its surroundings one thing and goes on with the
answer, so that a statement about a script speaks of every possible answer. `run` lets a handler
answer, and `interpret` replaces each question by a script.
-/

namespace ImageryJobs

/-- What scripts may ask: operations, and the type of the answer to each. -/
structure Interface where
  Op : Type
  Answer : Op → Type

/-- A computation that asks its surroundings. -/
inductive Script (I : Interface) (α : Type) where
  | done (value : α)
  | ask (op : I.Op) (next : I.Answer op → Script I α)

namespace Script

variable {I J : Interface} {α β γ : Type}

def bind : Script I α → (α → Script I β) → Script I β
  | .done value, f => f value
  | .ask op next, f => .ask op fun answer => (next answer).bind f

instance : Monad (Script I) where
  pure := .done
  bind := bind

@[simp] theorem done_bind (value : α) (f : α → Script I β) :
    (Script.done value >>= f) = f value := rfl

@[simp] theorem ask_bind (op : I.Op) (next : I.Answer op → Script I α) (f : α → Script I β) :
    (Script.ask op next >>= f) = .ask op fun answer => next answer >>= f := rfl

theorem bind_done (s : Script I α) : (s >>= Script.done) = s := by
  induction s with
  | done value => rfl
  | ask op next ih =>
      rw [ask_bind]
      congr 1
      funext answer
      exact ih answer

theorem bind_bind (s : Script I α) (f : α → Script I β) (g : β → Script I γ) :
    (s >>= f >>= g) = s >>= fun value => f value >>= g := by
  induction s with
  | done value => rfl
  | ask op next ih =>
      simp only [ask_bind]
      congr 1
      funext answer
      exact ih answer

instance : LawfulMonad (Script I) :=
  LawfulMonad.mk' (Script I)
    (fun s => bind_done s)
    (fun _ _ => rfl)
    (fun s f g => bind_bind s f g)

/-- Asks one thing. -/
def perform (op : I.Op) : Script I (I.Answer op) := .ask op .done

/-- Lets a handler answer. -/
def run {m : Type → Type} [Monad m] (handle : (op : I.Op) → m (I.Answer op)) :
    Script I α → m α
  | .done value => pure value
  | .ask op next => do
      let answer ← handle op
      run handle (next answer)

/-- Replaces every question by a script of another interface. -/
def interpret (f : (op : I.Op) → Script J (I.Answer op)) (s : Script I α) : Script J α :=
  s.run f

@[simp] theorem run_done {m : Type → Type} [Monad m] (handle : (op : I.Op) → m (I.Answer op))
    (value : α) : (Script.done value).run handle = pure value := rfl

theorem run_bind {m : Type → Type} [Monad m] [LawfulMonad m]
    (handle : (op : I.Op) → m (I.Answer op)) (s : Script I α) (f : α → Script I β) :
    (s >>= f).run handle = s.run handle >>= fun value => (f value).run handle := by
  induction s with
  | done value => simp [run]
  | ask op next ih => simp [run, ih]

end Script
end ImageryJobs
