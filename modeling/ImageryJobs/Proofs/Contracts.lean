import ImageryJobs.Proofs.Runs

/-!
Contracts of scripts. Rules say what may be asked in a state of the surroundings and which states an
answer leads to; the state may be a history, a count or a whole cluster. A script meets the rules
from a state if everything that it asks is allowed then, whatever the answers were. The laws follow
the binds of the code, and a contract holds of every run.
-/

namespace ImageryJobs

/-- What may be asked in a state, and the states that an event leads to. -/
structure Rules (I : Interface) (σ : Type) where
  allows : σ → I.Op → Prop
  moves : σ → Event I → σ → Prop

variable {I : Interface} {σ τ α β ε ε' : Type}

namespace Rules

variable (R : Rules I σ)

/-- Where `pre` holds the operation may be asked, and every answer establishes `post`. -/
def Step (pre : σ → Prop) (op : I.Op) (post : I.Answer op → σ → Prop) : Prop :=
  ∀ x, pre x → R.allows x op ∧ ∀ answer x', R.moves x ⟨op, answer⟩ x' → post answer x'

/-- Where `inv` holds the operation may be asked, and `inv` holds afterwards. -/
def Preserves (inv : σ → Prop) (op : I.Op) : Prop := R.Step inv op fun _ => inv

/-- The events of a log lead from one state to another. -/
inductive Path : σ → List (Event I) → σ → Prop where
  | nil (x : σ) : Path x [] x
  | cons {x y z : σ} {e : Event I} {log : List (Event I)} (first : R.moves x e y)
      (rest : Path y log z) : Path x (e :: log) z

variable {R}

theorem Path.append {x y z : σ} {log log' : List (Event I)} (h : R.Path x log y)
    (h' : R.Path y log' z) : R.Path x (log ++ log') z := by
  induction h with
  | nil x => exact h'
  | cons first _ ih => exact .cons first (ih h')

theorem Path.split {x z : σ} {log log' : List (Event I)} (h : R.Path x (log ++ log') z) :
    ∃ y, R.Path x log y ∧ R.Path y log' z := by
  induction log generalizing x with
  | nil => exact ⟨x, .nil x, h⟩
  | cons e log ih =>
      cases h with
      | cons first rest =>
          obtain ⟨y, before, after⟩ := ih rest
          exact ⟨y, .cons first before, after⟩

/-- Rules by which a handler gives every answer. -/
def answering (handle : (op : I.Op) → StateM σ (I.Answer op)) : Rules I σ :=
  ⟨fun _ _ => True, fun x e x' => (handle e.op).run x = (e.answer, x')⟩

/-- Rules whose state is the log so far. -/
def recording (allows : List (Event I) → I.Op → Prop) : Rules I (List (Event I)) :=
  ⟨allows, fun log e log' => log' = log ++ [e]⟩

theorem path_recording (allows : List (Event I) → I.Op → Prop) (before log : List (Event I)) :
    (recording allows).Path before log (before ++ log) := by
  induction log generalizing before with
  | nil =>
      rw [List.append_nil]
      exact .nil before
  | cons e log ih =>
      have rest := ih (before ++ [e])
      rw [List.append_assoc] at rest
      exact .cons rfl rest

end Rules

namespace Script

/-- Everything that the script asks from a state is allowed, and it ends with a value and a state
as said. -/
def Meets (R : Rules I σ) : Script I α → σ → (α → σ → Prop) → Prop
  | .done value, x, post => post value x
  | .ask op next, x, post =>
      R.allows x op ∧ ∀ answer x', R.moves x ⟨op, answer⟩ x' → (next answer).Meets R x' post

variable {R : Rules I σ} {s t : Script I α} {f : α → Script I β} {x x' : σ}
  {post post' : α → σ → Prop}

@[simp] theorem meets_done {value : α} : (done value).Meets R x post ↔ post value x := .rfl

@[simp] theorem meets_pure {value : α} :
    (pure value : Script I α).Meets R x post ↔ post value x := .rfl

theorem Meets.mono (h : s.Meets R x post) (hpost : ∀ value x, post value x → post' value x) :
    s.Meets R x post' := by
  induction s generalizing x with
  | done value => exact hpost value x h
  | ask op next ih => exact ⟨h.1, fun answer x' moved => ih answer (h.2 answer x' moved)⟩

theorem meets_bind {post : β → σ → Prop} :
    (s >>= f).Meets R x post ↔ s.Meets R x fun value x => (f value).Meets R x post := by
  induction s generalizing x with
  | done value => rfl
  | ask op next ih => exact and_congr_right fun _ => forall₃_congr fun answer x' _ => ih answer

theorem meets_map {f : α → β} {post : β → σ → Prop} :
    (f <$> s).Meets R x post ↔ s.Meets R x fun value x => post (f value) x := by
  rw [map_eq_pure_bind, meets_bind]
  rfl

theorem meets_answering {handle : (op : I.Op) → StateM σ (I.Answer op)} :
    s.Meets (.answering handle) x post ↔
      post ((s.run handle).run x).1 ((s.run handle).run x).2 := by
  induction s generalizing x with
  | done value => rfl
  | ask op next ih =>
      constructor
      · intro h
        exact ih _ |>.1 (h.2 ((handle op).run x).1 ((handle op).run x).2 rfl)
      · refine fun h => ⟨trivial, fun answer x' moved => (ih answer).2 ?_⟩
        have answered : (handle op).run x = (answer, x') := moved
        simp only [run, StateT.run_bind, answered] at h
        exact h

/-- A contract holds of what is left of a script. -/
theorem Meets.rest {log : List (Event I)} (h : s.Meets R x post) (hf : s.Follows log t)
    (path : R.Path x log x') : t.Meets R x' post := by
  induction hf generalizing x with
  | stop s =>
      cases path
      exact h
  | answered _ ih =>
      cases path with
      | cons first rest => exact ih (h.2 _ _ first) rest

/-- What was asked was allowed when it was asked. -/
theorem Meets.allowed {e : Event I} {log : List (Event I)} (h : s.Meets R x post)
    (hf : s.Follows (e :: log) t) : R.allows x e.op := by
  cases hf with
  | answered => exact h.1

/-- With rules about the log, whatever was asked at any moment was allowed after what came before. -/
theorem Meets.recorded {allows : List (Event I) → I.Op → Prop} {post : α → List (Event I) → Prop}
    (h : s.Meets (.recording allows) [] post) {before after : List (Event I)} {e : Event I}
    (hf : s.Follows (before ++ e :: after) t) : allows before e.op := by
  obtain ⟨u, first, last⟩ := hf.of_append
  exact (h.rest first (Rules.path_recording allows [] before)).allowed last

end Script

/-! ### Computations that may fail -/

/-- One condition for a value and one for an error. -/
def Ending (ok : α → σ → Prop) (error : ε → σ → Prop) : Except ε α → σ → Prop
  | .ok value => ok value
  | .error e => error e

/-- One condition for every end. -/
theorem ending_iff {P : Except ε α → σ → Prop} {result : Except ε α} {x : σ} :
    Ending (fun value => P (.ok value)) (fun e => P (.error e)) result x ↔ P result x := by
  cases result <;> rfl

/-- A contract of a computation that may fail. -/
def MeetsOr (R : Rules I σ) (m : ExceptT ε (Script I) α) (x : σ) (ok : α → σ → Prop)
    (error : ε → σ → Prop) : Prop := m.run.Meets R x (Ending ok error)

section Failing

variable {R : Rules I σ} {m : ExceptT ε (Script I) α} {x : σ} {ok ok' : α → σ → Prop}
  {error error' : ε → σ → Prop}

@[simp] theorem meetsOr_pure {value : α} :
    MeetsOr R (pure value : ExceptT ε (Script I) α) x ok error ↔ ok value x := .rfl

@[simp] theorem meetsOr_throw {e : ε} :
    MeetsOr R (throw e : ExceptT ε (Script I) α) x ok error ↔ error e x := .rfl

theorem MeetsOr.mono (h : MeetsOr R m x ok error) (hok : ∀ value x, ok value x → ok' value x)
    (herror : ∀ e x, error e x → error' e x) : MeetsOr R m x ok' error' := by
  refine Script.Meets.mono h fun result x hr => ?_
  cases result with
  | ok value => exact hok value x hr
  | error e => exact herror e x hr

theorem meetsOr_bind {f : α → ExceptT ε (Script I) β} {ok : β → σ → Prop} :
    MeetsOr R (m >>= f) x ok error ↔
      MeetsOr R m x (fun value x => MeetsOr R (f value) x ok error) error := by
  rw [MeetsOr, ExceptT.run_bind, Script.meets_bind]
  constructor <;>
    · refine fun h => Script.Meets.mono h fun result x hr => ?_
      cases result with
      | ok value => exact hr
      | error e => exact hr

theorem meetsOr_liftM {s : Script I α} :
    MeetsOr R (liftM s : ExceptT ε (Script I) α) x ok error ↔ s.Meets R x ok := by
  have lifted : (liftM s : ExceptT ε (Script I) α).run = Except.ok <$> s := rfl
  rw [MeetsOr, lifted, Script.meets_map]
  rfl

theorem meetsOr_adapt {f : ε → ε'} {error : ε' → σ → Prop} :
    MeetsOr R (ExceptT.adapt f m) x ok error ↔ MeetsOr R m x ok fun e => error (f e) := by
  have adapted : (ExceptT.adapt f m).run = Except.mapError f <$> m.run := rfl
  rw [MeetsOr, adapted, Script.meets_map]
  constructor <;>
    · refine fun h => Script.Meets.mono h fun result x hr => ?_
      cases result with
      | ok value => exact hr
      | error e => exact hr

theorem meetsOr_forM {f : β → ExceptT ε (Script I) PUnit} {inv : σ → Prop} {l : List β}
    (h : ∀ v ∈ l, ∀ x, inv x → MeetsOr R (f v) x (fun _ => inv) error) (hx : inv x) :
    MeetsOr R (l.forM f) x (fun _ => inv) error := by
  induction l generalizing x with
  | nil => exact hx
  | cons v l ih =>
      obtain ⟨hv, hl⟩ := List.forall_mem_cons.1 h
      exact meetsOr_bind.2 ((hv x hx).mono (fun _ _ hx' => ih hl hx') fun _ _ he => he)

theorem meetsOr_foldlM {f : α → β → ExceptT ε (Script I) α} {inv : σ → Prop} {l : List β}
    (h : ∀ found, ∀ v ∈ l, ∀ x, inv x → MeetsOr R (f found v) x (fun _ => inv) error) (hx : inv x)
    (start : α) : MeetsOr R (l.foldlM f start) x (fun _ => inv) error := by
  induction l generalizing start x with
  | nil => exact hx
  | cons v l ih =>
      rw [List.foldlM_cons]
      have rest := fun found v hv => h found v (List.mem_cons_of_mem _ hv)
      exact meetsOr_bind.2 ((h start v List.mem_cons_self x hx).mono
        (fun found _ hx' => ih rest hx' found) fun _ _ he => he)

end Failing

/-! ### Computations that may fail and keep a state -/

/-- A contract of a computation that may fail and keeps a state. -/
def MeetsWith (R : Rules I σ) (m : ExceptT ε (StateT τ (Script I)) α) (r : τ) (x : σ)
    (ok : α → τ → σ → Prop) (error : ε → τ → σ → Prop) : Prop :=
  (m.run.run r).Meets R x fun p =>
    Ending (fun value => ok value p.2) (fun e => error e p.2) p.1

section Stateful

variable {R : Rules I σ} {m : ExceptT ε (StateT τ (Script I)) α} {r : τ} {x : σ}
  {ok ok' : α → τ → σ → Prop} {error error' : ε → τ → σ → Prop}

@[simp] theorem meetsWith_pure {value : α} :
    MeetsWith R (pure value : ExceptT ε (StateT τ (Script I)) α) r x ok error ↔ ok value r x := .rfl

@[simp] theorem meetsWith_throw {e : ε} :
    MeetsWith R (throw e : ExceptT ε (StateT τ (Script I)) α) r x ok error ↔ error e r x := .rfl

theorem MeetsWith.mono (h : MeetsWith R m r x ok error)
    (hok : ∀ value r x, ok value r x → ok' value r x)
    (herror : ∀ e r x, error e r x → error' e r x) : MeetsWith R m r x ok' error' := by
  refine Script.Meets.mono h fun p x hp => ?_
  obtain ⟨result, r⟩ := p
  cases result with
  | ok value => exact hok value r x hp
  | error e => exact herror e r x hp

/-- Where the end does not matter it need not be looked at. -/
theorem MeetsWith.meets {post : τ → σ → Prop}
    (h : MeetsWith R m r x (fun _ => post) fun _ => post) :
    (m.run.run r).Meets R x fun p => post p.2 := by
  refine Script.Meets.mono h fun p x hp => ?_
  obtain ⟨result, r⟩ := p
  cases result <;> exact hp

theorem meetsWith_bind {f : α → ExceptT ε (StateT τ (Script I)) β} {ok : β → τ → σ → Prop} :
    MeetsWith R (m >>= f) r x ok error ↔
      MeetsWith R m r x (fun value r x => MeetsWith R (f value) r x ok error) error := by
  rw [MeetsWith, ExceptT.run_bind, StateT.run_bind, Script.meets_bind]
  constructor <;>
    · refine fun h => Script.Meets.mono h fun p x hp => ?_
      obtain ⟨result, r⟩ := p
      cases result with
      | ok value => exact hp
      | error e => exact hp

theorem meetsWith_get_bind {f : τ → ExceptT ε (StateT τ (Script I)) β} {ok : β → τ → σ → Prop} :
    MeetsWith R (get >>= f) r x ok error ↔ MeetsWith R (f r) r x ok error := by
  rw [meetsWith_bind]
  rfl

theorem meetsWith_modify_bind {g : τ → τ} {f : PUnit → ExceptT ε (StateT τ (Script I)) β}
    {ok : β → τ → σ → Prop} :
    MeetsWith R (modify g >>= f) r x ok error ↔ MeetsWith R (f ⟨⟩) (g r) x ok error := by
  rw [meetsWith_bind]
  rfl

@[simp] theorem meetsWith_modify {g : τ → τ} {ok : PUnit → τ → σ → Prop} :
    MeetsWith R (modify g : ExceptT ε (StateT τ (Script I)) PUnit) r x ok error ↔
      ok ⟨⟩ (g r) x := .rfl

theorem meetsWith_liftM {s : Script I α} :
    MeetsWith R (liftM s : ExceptT ε (StateT τ (Script I)) α) r x ok error ↔
      s.Meets R x fun value => ok value r := by
  have lifted : (liftM s : ExceptT ε (StateT τ (Script I)) α).run.run r =
      (fun value => (Except.ok value, r)) <$> s := by
    simp [liftM, monadLift, MonadLift.monadLift, ExceptT.lift]
  rw [MeetsWith, lifted, Script.meets_map]
  rfl

/-- A script that may fail, as part of such a computation. -/
theorem meetsWith_mk_liftM {s : ExceptT ε (Script I) α} :
    MeetsWith R (ExceptT.mk (liftM s.run) : ExceptT ε (StateT τ (Script I)) α) r x ok error ↔
      MeetsOr R s x (fun value => ok value r) fun e => error e r := by
  have lifted : (ExceptT.mk (liftM s.run : StateT τ (Script I) (Except ε α))).run.run r =
      (fun result => (result, r)) <$> s.run := by
    simp [liftM, monadLift, MonadLift.monadLift, ExceptT.run, ExceptT.mk]
  rw [MeetsWith, lifted, Script.meets_map]
  rfl

/-- A computation that cannot fail, as part of one that may. -/
theorem meetsWith_liftM_state {m : StateT τ (Script I) α} :
    MeetsWith R (liftM m : ExceptT ε (StateT τ (Script I)) α) r x ok error ↔
      (m.run r).Meets R x fun p => ok p.1 p.2 := by
  have lifted : (liftM m : ExceptT ε (StateT τ (Script I)) α).run.run r =
      (fun p => (Except.ok p.1, p.2)) <$> m.run r := by
    simp [liftM, monadLift, MonadLift.monadLift, ExceptT.lift]
  rw [MeetsWith, lifted, Script.meets_map]
  rfl

theorem meetsWith_adapt {f : ε → ε'} {error : ε' → τ → σ → Prop} :
    MeetsWith R (ExceptT.adapt f m) r x ok error ↔
      MeetsWith R m r x ok fun e => error (f e) := by
  have adapted : (ExceptT.adapt f m).run.run r =
      (fun p => (p.1.mapError f, p.2)) <$> m.run.run r := rfl
  rw [MeetsWith, adapted, Script.meets_map]
  constructor <;>
    · refine fun h => Script.Meets.mono h fun p x hp => ?_
      obtain ⟨result, r⟩ := p
      cases result with
      | ok value => exact hp
      | error e => exact hp

end Stateful
end ImageryJobs
