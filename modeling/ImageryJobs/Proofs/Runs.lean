import ImageryJobs.Script
import Mathlib.Data.List.Basic

/-!
Runs of scripts. A run is seen as the list of what was asked and answered, and the surroundings
may answer anything that the interface allows. The laws take a run of a computation apart at its
binds; what answers are possible is left to each interface.
-/

namespace ImageryJobs

/-- A question that a script asked, and the answer it got. -/
structure Event (I : Interface) where
  op : I.Op
  answer : I.Answer op

instance {I : Interface} [DecidableEq I.Op] [∀ op, DecidableEq (I.Answer op)] :
    DecidableEq (Event I)
  | ⟨op, a⟩, ⟨op', b⟩ =>
      if h : op = op' then
        match op', h, b with
        | _, rfl, b => decidable_of_iff (a = b) ⟨fun heq => heq ▸ rfl, fun heq => by cases heq; rfl⟩
      else isFalse fun heq => h (congrArg Event.op heq)

namespace Script

variable {I J : Interface} {α β : Type}

/-- After the questions and answers of a log, another script is left to do. -/
inductive Follows : Script I α → List (Event I) → Script I α → Prop where
  | stop (s : Script I α) : Follows s [] s
  | answered {op : I.Op} {next : I.Answer op → Script I α} {answer : I.Answer op}
      {log : List (Event I)} {rest : Script I α} (h : Follows (next answer) log rest) :
      Follows (.ask op next) (⟨op, answer⟩ :: log) rest

/-- Whether there is nothing left to ask. -/
def isDone : Script I α → Bool
  | .done _ => true
  | .ask _ _ => false

/-- With the questions and answers of a log, the script ends with a value. -/
def Ran (s : Script I α) (log : List (Event I)) (value : α) : Prop := s.Follows log (.done value)

theorem Follows.trans {s t u : Script I α} {log log' : List (Event I)} (h : s.Follows log t)
    (h' : t.Follows log' u) : s.Follows (log ++ log') u := by
  induction h with
  | stop s => exact h'
  | answered _ ih => exact .answered (ih h')

theorem Follows.snoc {s : Script I α} {log : List (Event I)} {op : I.Op}
    {next : I.Answer op → Script I α} (h : s.Follows log (.ask op next)) (answer : I.Answer op) :
    s.Follows (log ++ [⟨op, answer⟩]) (next answer) :=
  h.trans (.answered (.stop _))

/-- A log can be stopped at any point of it. -/
theorem Follows.of_append {s u : Script I α} {log log' : List (Event I)}
    (h : s.Follows (log ++ log') u) : ∃ t, s.Follows log t ∧ t.Follows log' u := by
  induction log generalizing s with
  | nil => exact ⟨s, .stop s, h⟩
  | cons e log ih =>
      cases h with
      | answered h =>
          obtain ⟨t, first, last⟩ := ih h
          exact ⟨t, .answered first, last⟩

@[simp] theorem follows_done {value : α} {log : List (Event I)} {rest : Script I α} :
    (Script.done value).Follows log rest ↔ log = [] ∧ rest = .done value := by
  constructor
  · intro h
    cases h
    exact ⟨rfl, rfl⟩
  · intro given
    obtain ⟨rfl, rfl⟩ := given
    exact .stop _

@[simp] theorem ran_done {value value' : α} {log : List (Event I)} :
    (Script.done value).Ran log value' ↔ log = [] ∧ value' = value := by
  rw [Ran, follows_done, Script.done.injEq]

@[simp] theorem ran_pure {value value' : α} {log : List (Event I)} :
    (pure value : Script I α).Ran log value' ↔ log = [] ∧ value' = value := ran_done

theorem ran_ask {op : I.Op} {next : I.Answer op → Script I α} {log : List (Event I)} {value : α} :
    (Script.ask op next).Ran log value ↔
      ∃ answer rest, log = ⟨op, answer⟩ :: rest ∧ (next answer).Ran rest value := by
  constructor
  · intro h
    cases h with
    | answered h => exact ⟨_, _, rfl, h⟩
  · intro given
    obtain ⟨answer, rest, rfl, h⟩ := given
    exact .answered h

@[simp] theorem ran_perform {op : I.Op} {log : List (Event I)} {answer : I.Answer op} :
    (perform op).Ran log answer ↔ log = [⟨op, answer⟩] := by
  rw [perform, ran_ask]
  constructor
  · intro given
    obtain ⟨_, _, rfl, h⟩ := given
    rw [ran_done] at h
    rw [h.1, h.2]
  · intro heq
    subst heq
    exact ⟨_, _, rfl, ran_done.2 ⟨rfl, rfl⟩⟩

theorem Follows.bind {s t : Script I α} {log : List (Event I)} (h : s.Follows log t)
    (f : α → Script I β) : (s >>= f).Follows log (t >>= f) := by
  induction h with
  | stop s => exact .stop _
  | answered _ ih => exact .answered ih

/-- What is left of a bind is left either of its first part or of what comes after. -/
theorem follows_bind {s : Script I α} {f : α → Script I β} {log : List (Event I)}
    {rest : Script I β} :
    (s >>= f).Follows log rest ↔
      (∃ t, s.Follows log t ∧ rest = (t >>= f)) ∨
        ∃ log₁ value log₂, log = log₁ ++ log₂ ∧ s.Ran log₁ value ∧
          (f value).Follows log₂ rest := by
  constructor
  · intro h
    induction s generalizing log with
    | done value => exact .inr ⟨[], value, log, rfl, .stop _, h⟩
    | ask op next ih =>
        cases h with
        | stop => exact .inl ⟨_, .stop _, rfl⟩
        | answered h =>
            obtain ⟨t, ht, rfl⟩ | ⟨log₁, value, log₂, rfl, h₁, h₂⟩ := ih _ h
            · exact .inl ⟨t, .answered ht, rfl⟩
            · exact .inr ⟨_, value, log₂, rfl, .answered h₁, h₂⟩
  · intro given
    obtain ⟨t, ht, rfl⟩ | ⟨log₁, value, log₂, rfl, h₁, h₂⟩ := given
    · exact ht.bind f
    · exact (h₁.bind f).trans h₂

theorem ran_bind {s : Script I α} {f : α → Script I β} {log : List (Event I)} {value : β} :
    (s >>= f).Ran log value ↔
      ∃ log₁ first log₂, log = log₁ ++ log₂ ∧ s.Ran log₁ first ∧ (f first).Ran log₂ value := by
  rw [Ran, follows_bind]
  constructor
  · intro given
    obtain ⟨t, ht, h⟩ | h := given
    · cases t with
      | ask op next => cases h
      | done first =>
          rw [done_bind] at h
          refine ⟨log, first, [], by simp, ht, ?_⟩
          rw [← h]
          exact .stop _
    · exact h
  · exact .inr

@[simp] theorem ran_map {s : Script I α} {f : α → β} {log : List (Event I)} {value : β} :
    (f <$> s).Ran log value ↔ ∃ first, s.Ran log first ∧ value = f first := by
  rw [map_eq_pure_bind, ran_bind]
  constructor
  · intro given
    obtain ⟨log₁, first, log₂, rfl, h₁, h₂⟩ := given
    obtain ⟨rfl, rfl⟩ := ran_pure.1 h₂
    exact ⟨first, by simpa using h₁, rfl⟩
  · intro given
    obtain ⟨first, h, rfl⟩ := given
    exact ⟨log, first, [], by simp, h, ran_pure.2 ⟨rfl, rfl⟩⟩

/-- The run in which the questions, counted from `n`, get given answers. -/
def play (answer : Nat → (op : I.Op) → I.Answer op) : Nat → Script I α → List (Event I) × α
  | _, .done value => ([], value)
  | n, .ask op next =>
      let (log, value) := play answer (n + 1) (next (answer n op))
      (⟨op, answer n op⟩ :: log, value)

theorem ran_play (answer : Nat → (op : I.Op) → I.Answer op) (n : Nat) (s : Script I α) :
    s.Ran (s.play answer n).1 (s.play answer n).2 := by
  induction s generalizing n with
  | done value => exact .stop _
  | ask op next ih => exact .answered (ih (answer n op) (n + 1))

theorem answer_of_play (answer : Nat → (op : I.Op) → I.Answer op) (n : Nat) (s : Script I α) (k : Nat)
    (e : Event I) (h : (s.play answer n).1[k]? = some e) : e.answer = answer (n + k) e.op := by
  induction s generalizing n k with
  | done value => cases h
  | ask op next ih =>
      cases k with
      | zero =>
          cases h
          rfl
      | succ k =>
          rw [ih (answer n op) (n + 1) k h, Nat.add_right_comm]
          rfl

/-- A log so far is the beginning of the log of a run. -/
theorem Follows.exists_ran [∀ op, Nonempty (I.Answer op)] {s rest : Script I α}
    {log : List (Event I)} (h : s.Follows log rest) :
    ∃ log' value, s.Ran (log ++ log') value := by
  have answer (op : I.Op) : I.Answer op := Classical.choice inferInstance
  exact ⟨_, _, h.trans (ran_play (fun _ => answer) 0 rest)⟩

/-- Everything that the script may ask, whatever it is answered, has `P`. -/
def Asks (P : I.Op → Prop) : Script I α → Prop
  | .done _ => True
  | .ask op next => P op ∧ ∀ answer, Asks P (next answer)

variable {P Q : I.Op → Prop}

theorem Asks.follows {s rest : Script I α} {log : List (Event I)} (h : s.Asks P)
    (hf : s.Follows log rest) : ∀ e ∈ log, P e.op := by
  induction hf with
  | stop s => exact List.forall_mem_nil _
  | answered _ ih => exact List.forall_mem_cons.2 ⟨h.1, ih (h.2 _)⟩

theorem Asks.bind {s : Script I α} {f : α → Script I β} (hs : s.Asks P)
    (hf : ∀ value, (f value).Asks P) : (s >>= f).Asks P := by
  induction s with
  | done value => exact hf value
  | ask op next ih => exact ⟨hs.1, fun answer => ih answer (hs.2 answer)⟩

theorem Asks.mono {s : Script I α} (h : s.Asks P) (hpq : ∀ op, P op → Q op) : s.Asks Q := by
  induction s with
  | done value => trivial
  | ask op next ih => exact ⟨hpq op h.1, fun answer => ih answer (h.2 answer)⟩

end Script

/-! ### Computations that may fail -/

section Failing

variable {I : Interface} {ε α β : Type}

/-- A bind ends with the error of its first part, or goes on with its value. -/
theorem ran_run_bind {m : ExceptT ε (Script I) α} {f : α → ExceptT ε (Script I) β}
    {log : List (Event I)} {result : Except ε β} :
    (m >>= f).run.Ran log result ↔
      (∃ e, m.run.Ran log (.error e) ∧ result = .error e) ∨
        ∃ log₁ value log₂, log = log₁ ++ log₂ ∧ m.run.Ran log₁ (.ok value) ∧
          (f value).run.Ran log₂ result := by
  rw [ExceptT.run_bind, Script.ran_bind]
  constructor
  · intro h
    obtain ⟨log₁, first, log₂, rfl, h₁, h₂⟩ := h
    cases first with
    | ok value => exact .inr ⟨log₁, value, log₂, rfl, h₁, h₂⟩
    | error e =>
        obtain ⟨rfl, rfl⟩ := Script.ran_pure.1 h₂
        exact .inl ⟨e, by simpa using h₁, rfl⟩
  · intro h
    obtain ⟨e, h₁, rfl⟩ | ⟨log₁, value, log₂, rfl, h₁, h₂⟩ := h
    · exact ⟨log, .error e, [], by simp, h₁, by simp⟩
    · exact ⟨log₁, .ok value, log₂, rfl, h₁, h₂⟩

theorem ran_run_liftM_bind {s : Script I α} {f : α → ExceptT ε (Script I) β}
    {log : List (Event I)} {result : Except ε β} :
    (liftM s >>= f).run.Ran log result ↔
      ∃ log₁ value log₂, log = log₁ ++ log₂ ∧ s.Ran log₁ value ∧ (f value).run.Ran log₂ result := by
  have lifted : (liftM s : ExceptT ε (Script I) α).run = Except.ok <$> s := rfl
  rw [ExceptT.run_bind, lifted, map_eq_pure_bind, bind_assoc, Script.ran_bind]
  rfl

end Failing

/-! ### Computations that may fail and keep a state -/

section Stateful

variable {I : Interface} {σ ε ε' α β : Type}

/-- A run of a computation that may fail and keeps a state. -/
def RanWith (m : ExceptT ε (StateT σ (Script I)) α) (s : σ) (log : List (Event I))
    (result : Except ε α) (s' : σ) : Prop := (m.run.run s).Ran log (result, s')

variable {s s' : σ} {log : List (Event I)}

@[simp] theorem ranWith_pure {value : α} {result : Except ε α} :
    RanWith (pure value) s log result s' ↔ log = [] ∧ result = .ok value ∧ s' = s := by
  simp [RanWith]

@[simp] theorem ranWith_throw {e : ε} {result : Except ε α} :
    RanWith (throw e) s log result s' ↔ log = [] ∧ result = .error e ∧ s' = s := by
  simp [RanWith]

@[simp] theorem ranWith_get {result : Except ε σ} :
    RanWith get s log result s' ↔ log = [] ∧ result = .ok s ∧ s' = s := by
  change (Script.done (Except.ok s, s)).Ran log (result, s') ↔ _
  simp

@[simp] theorem ranWith_modify {f : σ → σ} {result : Except ε PUnit} :
    RanWith (modify f) s log result s' ↔ log = [] ∧ result = .ok ⟨⟩ ∧ s' = f s := by
  change (Script.done (Except.ok PUnit.unit, f s)).Ran log (result, s') ↔ _
  simp

theorem ranWith_liftM {script : Script I α} {result : Except ε α} :
    RanWith (liftM script) s log result s' ↔
      ∃ value, script.Ran log value ∧ result = .ok value ∧ s' = s := by
  have h : (liftM script : ExceptT ε (StateT σ (Script I)) α).run.run s =
      (fun value => (Except.ok value, s)) <$> script := by
    simp [liftM, monadLift, MonadLift.monadLift, ExceptT.lift]
  simp only [RanWith, h, Script.ran_map, Prod.mk.injEq]

/-- A script that may fail, as part of such a computation. -/
theorem ranWith_mk_liftM {script : Script I (Except ε α)} {result : Except ε α} :
    RanWith (ExceptT.mk (liftM script)) s log result s' ↔ script.Ran log result ∧ s' = s := by
  have h : (ExceptT.mk (liftM script : StateT σ (Script I) (Except ε α))).run.run s =
      (fun result => (result, s)) <$> script := by
    simp [liftM, monadLift, MonadLift.monadLift, ExceptT.run, ExceptT.mk]
  simp only [RanWith, h, Script.ran_map, Prod.mk.injEq]
  constructor
  · intro given
    obtain ⟨first, hr, rfl, rfl⟩ := given
    exact ⟨hr, rfl⟩
  · intro given
    obtain ⟨hr, rfl⟩ := given
    exact ⟨result, hr, rfl, rfl⟩

/-- A computation that cannot fail, as part of one that may. -/
theorem ranWith_liftM_state {m : StateT σ (Script I) α} {result : Except ε α} :
    RanWith (liftM m) s log result s' ↔
      ∃ value, (m.run s).Ran log (value, s') ∧ result = .ok value := by
  have h : (liftM m : ExceptT ε (StateT σ (Script I)) α).run.run s =
      (fun p => (Except.ok p.1, p.2)) <$> m.run s := by
    simp [liftM, monadLift, MonadLift.monadLift, ExceptT.lift]
  simp only [RanWith, h, Script.ran_map, Prod.mk.injEq]
  constructor
  · intro given
    obtain ⟨⟨value, _⟩, hr, rfl, rfl⟩ := given
    exact ⟨value, hr, rfl⟩
  · intro given
    obtain ⟨value, hr, rfl⟩ := given
    exact ⟨(value, s'), hr, rfl, rfl⟩

theorem ranWith_adapt {m : ExceptT ε (StateT σ (Script I)) α} {f : ε → ε'}
    {result : Except ε' α} :
    RanWith (ExceptT.adapt f m) s log result s' ↔
      ∃ first, RanWith m s log first s' ∧ result = first.mapError f := by
  have h : (ExceptT.adapt f m).run.run s =
      (fun p => (p.1.mapError f, p.2)) <$> m.run.run s := rfl
  simp only [RanWith, h, Script.ran_map, Prod.mk.injEq]
  constructor
  · intro given
    obtain ⟨⟨first, _⟩, hr, rfl, rfl⟩ := given
    exact ⟨first, hr, rfl⟩
  · intro given
    obtain ⟨first, hr, rfl⟩ := given
    exact ⟨(first, s'), hr, rfl, rfl⟩

theorem ranWith_bind {m : ExceptT ε (StateT σ (Script I)) α}
    {f : α → ExceptT ε (StateT σ (Script I)) β} {result : Except ε β} :
    RanWith (m >>= f) s log result s' ↔
      (∃ e, RanWith m s log (.error e) s' ∧ result = .error e) ∨
        ∃ log₁ value s₁ log₂, log = log₁ ++ log₂ ∧ RanWith m s log₁ (.ok value) s₁ ∧
          RanWith (f value) s₁ log₂ result s' := by
  rw [RanWith, ExceptT.run_bind, StateT.run_bind, Script.ran_bind]
  constructor
  · intro given
    obtain ⟨log₁, ⟨first, s₁⟩, log₂, rfl, h₁, h₂⟩ := given
    cases first with
    | ok value => exact .inr ⟨log₁, value, s₁, log₂, rfl, h₁, h₂⟩
    | error e =>
        simp at h₂
        obtain ⟨rfl, rfl, rfl⟩ := h₂
        exact .inl ⟨e, by simpa [RanWith] using h₁, rfl⟩
  · intro given
    obtain ⟨e, h, rfl⟩ | ⟨log₁, value, s₁, log₂, rfl, h₁, h₂⟩ := given
    · exact ⟨log, (.error e, s'), [], by simp, h, by simp⟩
    · exact ⟨log₁, (.ok value, s₁), log₂, rfl, h₁, h₂⟩

theorem ranWith_bind_ok {m : ExceptT ε (StateT σ (Script I)) α}
    {f : α → ExceptT ε (StateT σ (Script I)) β} {value : β} :
    RanWith (m >>= f) s log (.ok value) s' ↔
      ∃ log₁ first s₁ log₂, log = log₁ ++ log₂ ∧ RanWith m s log₁ (.ok first) s₁ ∧
        RanWith (f first) s₁ log₂ (.ok value) s' := by
  rw [ranWith_bind]
  constructor
  · intro given
    obtain ⟨e, -, h⟩ | h := given
    · cases h
    · exact h
  · exact .inr

theorem ranWith_get_bind {f : σ → ExceptT ε (StateT σ (Script I)) β} {result : Except ε β} :
    RanWith (get >>= f) s log result s' ↔ RanWith (f s) s log result s' := by
  rw [ranWith_bind]
  constructor
  · intro given
    obtain ⟨e, h, -⟩ | ⟨log₁, value, s₁, log₂, rfl, h₁, h₂⟩ := given
    · simp at h
    · obtain ⟨rfl, hv, rfl⟩ := ranWith_get.1 h₁
      cases hv
      exact h₂
  · intro h
    exact .inr ⟨[], s, s, log, rfl, ranWith_get.2 ⟨rfl, rfl, rfl⟩, h⟩

theorem ranWith_modify_bind {g : σ → σ} {f : PUnit → ExceptT ε (StateT σ (Script I)) β}
    {result : Except ε β} :
    RanWith (modify g >>= f) s log result s' ↔ RanWith (f ⟨⟩) (g s) log result s' := by
  rw [ranWith_bind]
  constructor
  · intro given
    obtain ⟨e, h, -⟩ | ⟨log₁, value, s₁, log₂, rfl, h₁, h₂⟩ := given
    · simp at h
    · obtain ⟨rfl, -, rfl⟩ := ranWith_modify.1 h₁
      exact h₂
  · intro h
    exact .inr ⟨[], ⟨⟩, g s, log, rfl, ranWith_modify.2 ⟨rfl, rfl, rfl⟩, h⟩

theorem ranWith_liftM_bind {script : Script I α} {f : α → ExceptT ε (StateT σ (Script I)) β}
    {result : Except ε β} :
    RanWith (liftM script >>= f) s log result s' ↔
      ∃ log₁ value log₂, log = log₁ ++ log₂ ∧ script.Ran log₁ value ∧
        RanWith (f value) s log₂ result s' := by
  rw [ranWith_bind]
  constructor
  · intro given
    obtain ⟨e, h, -⟩ | ⟨log₁, value, s₁, log₂, rfl, h₁, h₂⟩ := given
    · obtain ⟨value, -, hv, -⟩ := ranWith_liftM.1 h
      cases hv
    · obtain ⟨value', h, hv, rfl⟩ := ranWith_liftM.1 h₁
      cases hv
      exact ⟨log₁, value, log₂, rfl, h, h₂⟩
  · intro given
    obtain ⟨log₁, value, log₂, rfl, h₁, h₂⟩ := given
    exact .inr ⟨log₁, value, s, log₂, rfl, ranWith_liftM.2 ⟨value, h₁, rfl, rfl⟩, h₂⟩

end Stateful
end ImageryJobs
