import ImageryJobs.Proofs.Engine.Rounds
import ImageryJobs.Proofs.Engine.Serving

/-!
Errors that a run with accepted tasks never ends with. A task fails by its objects, by a cancellation
or by its observer; that it has no image, or that an output cannot be handed over, is known before.
-/

namespace ImageryJobs

/-- An error that follows from the tasks and the images alone. -/
inductive EngineError.IsRefusal : EngineError → Prop where
  | unknownImage (processId : String) : IsRefusal (.unknownImage processId)
  | volume (cause : VolumeError) : IsRefusal (.volume cause)

/-- Every error that the computation may end with is none of `P`. -/
def Avoids {I : Interface} {ε α : Type} (P : ε → Prop) (m : ExceptT ε (Script I) α) : Prop :=
  ∀ log error, m.run.Ran log (.error error) → ¬ P error

section

variable {I : Interface} {ε α β : Type} {P : ε → Prop}

theorem avoids_bind {m : ExceptT ε (Script I) α} {f : α → ExceptT ε (Script I) β}
    (hm : Avoids P m) (hf : ∀ value, Avoids P (f value)) : Avoids P (m >>= f) := by
  intro log error h
  obtain ⟨_, h, heq⟩ | ⟨_, value, later, -, -, h⟩ := ran_run_bind.1 h
  · cases heq
    exact hm log error h
  · exact hf value later error h

theorem avoids_pure (value : α) : Avoids P (pure value : ExceptT ε (Script I) α) := by
  intro log error h
  cases (Script.ran_pure.1 h).2

theorem avoids_mk_pure {result : Except ε α} (h : ∀ error, result = .error error → ¬ P error) :
    Avoids P (ExceptT.mk (pure result) : ExceptT ε (Script I) α) := by
  intro log error ran
  exact h error (Script.ran_pure.1 ran).2.symm

theorem avoids_liftM_bind {s : Script I α} {f : α → ExceptT ε (Script I) β}
    (hf : ∀ value, Avoids P (f value)) : Avoids P (liftM s >>= f) := by
  intro log error h
  obtain ⟨_, value, later, -, -, h⟩ := ran_run_liftM_bind.1 h
  exact hf value later error h

end

namespace Engine

open EngineScript EngineError

variable {e : Engine} {jobId : String} {task : Task} {tasks : List Task}
  {arena arena' : Arena Resource} {log : List (Event engineInterface)}

/-! ### A task -/

theorem taskError_not_refusal (task : Task) (logs : Option String) (cause : LifecycleError) :
    ¬ (taskError task logs cause).IsRefusal := by
  unfold taskError
  intro h
  split at h <;> cases h

theorem avoids_made {α : Type} {made : Except LifecycleError α} :
    Avoids IsRefusal (ExceptT.mk (pure (made.mapError (taskError task none))) : Running α) := by
  refine avoids_mk_pure fun error heq => ?_
  cases made with
  | ok _ => cases heq
  | error cause =>
      cases heq
      exact taskError_not_refusal task none cause

theorem avoids_buildImage (known : e.catalog.contains task.processId = true) :
    Avoids IsRefusal (e.buildImage jobId task) := by
  intro log error h
  unfold buildImage at h
  obtain ⟨spec, hs : e.catalog.get? task.processId = some spec⟩ :=
    Option.isSome_iff_exists.1 known
  rw [hs] at h
  obtain ⟨inner, hr, -⟩ := ran_ofCluster.1 h
  obtain ⟨_, ⟨built, b⟩, _, -, -, h₂⟩ := Script.ran_bind.1 hr
  cases built with
  | ok built => cases (Script.ran_pure.1 h₂).2
  | error cause =>
      obtain ⟨_, ⟨text, b₁⟩, _, -, -, h₄⟩ := Script.ran_bind.1 h₂
      obtain ⟨_, _, _, -, -, h₆⟩ := Script.ran_bind.1 h₄
      cases (Script.ran_pure.1 h₆).2
      exact taskError_not_refusal task text cause

theorem avoids_deploy {image : String} {config : Resource} {output : HeldVolume Resource}
    {inputs : List (HeldVolume Resource)} :
    Avoids IsRefusal (e.deploy jobId task image config output inputs) := by
  intro log error h
  obtain ⟨inner, hr, -⟩ := ran_ofCluster.1 h
  obtain ⟨_, ⟨created, batch⟩, _, -, -, h₂⟩ := Script.ran_bind.1 hr
  obtain ⟨_, ⟨text, batch₁⟩, _, -, -, h₄⟩ := Script.ran_bind.1 h₂
  cases created with
  | ok _ =>
      obtain ⟨_, found, _, -, -, h₆⟩ := Script.ran_bind.1 h₄
      obtain ⟨_, result, _, -, hp, h₇⟩ := Script.ran_bind.1 h₆
      obtain ⟨-, rfl⟩ := Script.ran_pure.1 hp
      obtain ⟨_, _, _, -, -, h₉⟩ := Script.ran_bind.1 h₇
      cases (Script.ran_pure.1 h₉).2
  | error cause =>
      obtain ⟨_, result, _, -, hp, h₇⟩ := Script.ran_bind.1 h₄
      obtain ⟨-, rfl⟩ := Script.ran_pure.1 hp
      obtain ⟨_, _, _, -, -, h₉⟩ := Script.ran_bind.1 h₇
      cases (Script.ran_pure.1 h₉).2
      exact taskError_not_refusal task text.toOption.join cause

theorem ran_execute_error (known : e.catalog.contains task.processId = true)
    {output output' : HeldVolume Resource} {config : Resource}
    {inputs : List (HeldVolume Resource)} {error : EngineError}
    (h : (e.execute jobId task output config inputs).Ran log (.error error, output')) :
    ¬ error.IsRefusal := by
  obtain ⟨_, ⟨made, volume⟩, _, -, -, h₂⟩ := Script.ran_bind.1 h
  obtain ⟨log₃, result, _, -, h₃, h₄⟩ := Script.ran_bind.1 h₂
  cases (Script.ran_pure.1 h₄).2
  refine avoids_bind avoids_made (fun _ => avoids_liftM_bind fun made => ?_) log₃ error h₃
  refine avoids_bind avoids_made fun _ => ?_
  exact avoids_bind (avoids_buildImage known) fun _ => avoids_bind avoids_deploy fun _ => avoids_pure _

/-- A task that is served is not refused, and serves those after it. -/
theorem ran_runTask_served {rest : List (Nat × List Nat)} {result : Except EngineError TaskOutcome}
    (known : e.catalog.contains task.processId = true)
    (served : arena.Serves ((task.seqNum, task.dependsOn) :: rest))
    (h : (e.runTask jobId task arena).Ran log (result, arena')) :
    (∀ error, result = .error error → ¬ error.IsRefusal) ∧
      ∀ outcome, result = .ok outcome → arena'.Serves rest := by
  obtain ⟨inputs, left, taken, vacant, later⟩ := served.turn
  unfold runTask at h
  rw [taken] at h
  obtain ⟨log₁, ⟨carried, output⟩, log₂, rfl, h₁, h₂⟩ := Script.ran_bind.1 h
  obtain ⟨⟨producer, -⟩, -⟩ := ran_execute rfl rfl rfl h₁
  obtain ⟨_, _, _, -, -, h₄⟩ := Script.ran_bind.1 h₂
  obtain ⟨_, _, _, -, -, h₆⟩ := Script.ran_bind.1 h₄
  cases carried with
  | ok outcome =>
      have producer : output.producer = task.seqNum := producer
      -- The place of the output is empty, so it is registered.
      obtain ⟨arena'', registered, -⟩ :=
        Arena.register_of_vacant (a := left) (v := output) (by rw [producer]; exact vacant)
      simp only [registered] at h₆
      cases (Script.ran_pure.1 h₆).2
      refine ⟨fun error heq => ?_, fun _ _ => later output arena' producer registered⟩
      cases heq
  | error cause =>
      obtain ⟨_, _, _, -, -, h₈⟩ := Script.ran_bind.1 h₆
      cases (Script.ran_pure.1 h₈).2
      refine ⟨fun error heq => ?_, fun outcome heq => ?_⟩
      · cases heq
        exact ran_execute_error known h₁
      · cases heq

/-! ### A run -/

/-- The observer never answers with a refusal. -/
def Obliged (log : List (Event engineInterface)) : Prop :=
  ∀ event error, told event (.error error) ∈ log → ¬ error.IsRefusal

theorem Rounds.not_refused {result : Except EngineError (List TaskOutcome)}
    (h : e.Rounds jobId tasks arena log result arena')
    (known : ∀ t ∈ tasks, e.catalog.contains t.processId = true)
    (served : arena.Serves (tasks.map fun t => (t.seqNum, t.dependsOn)))
    (obliged : Obliged log) : ∀ error, result = .error error → ¬ error.IsRefusal := by
  induction h with
  | complete _ =>
      intro error heq
      cases heq
  | withdrawn task _ _ _ =>
      intro error heq refusal
      cases heq
      cases refusal
  | unstarted task _ _ cause =>
      intro error heq
      cases heq
      exact obliged (.started task) cause (by simp)
  | @failed task _ _ _ _ _ _ ran =>
      intro error heq
      cases heq
      exact (ran_runTask_served (known task List.mem_cons_self) served ran).1 _ rfl
  | @unfinished task _ _ _ _ outcome cause _ =>
      intro error heq
      cases heq
      exact obliged (.finished task outcome) cause (by simp)
  | @finished task rest _ _ _ _ later outcome result ran _ ih =>
      -- A task that finishes leaves an arena that serves the tasks after it.
      obtain ⟨-, served⟩ := ran_runTask_served (known task List.mem_cons_self) served ran
      have rest := ih (fun t ht => known t (List.mem_cons_of_mem _ ht)) (served outcome rfl)
        fun event error hm => obliged event error (by simp [hm])
      intro error heq
      cases result with
      | ok outcomes => cases heq
      | error cause =>
          cases heq
          exact rest error rfl

theorem run_not_refused {error : EngineError}
    (known : ∀ t ∈ tasks, e.catalog.contains t.processId = true)
    (readable : Arena.Readable (tasks.map fun t => (t.seqNum, t.dependsOn)))
    (h : (e.run jobId tasks).Ran log (.error error)) (obliged : Obliged log) :
    ¬ error.IsRefusal := by
  have perm := ordered_perm tasks
  obtain ⟨arena, planned⟩ := (Arena.plan_ok_iff (ρ := Resource)).2 (readable.perm (perm.symm.map _))
  have order : (((ordered tasks).map fun t => (t.seqNum, t.dependsOn)).map Prod.fst).Pairwise (· ≤ ·) := by
    rw [List.map_map]
    exact List.pairwise_map.2 (ordered_sorted tasks)
  unfold run at h
  dsimp only at h
  rw [planned] at h
  obtain ⟨log₁, ⟨ended, arena₁⟩, log₂, rfl, h₁, h₂⟩ := Script.ran_bind.1 h
  obtain ⟨_, _, _, -, -, h₄⟩ := Script.ran_bind.1 h₂
  obtain ⟨-, rfl⟩ := Script.ran_pure.1 h₄
  refine (rounds_of_ran h₁).not_refused (fun t ht => known t (perm.mem_iff.1 ht))
    (Arena.serves_of_plan planned order) (fun event error hm => ?_) error rfl
  exact obliged event error (List.mem_append_left _ hm)

end Engine
end ImageryJobs
