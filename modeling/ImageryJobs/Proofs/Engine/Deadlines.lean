import ImageryJobs.Proofs.Cluster.Deadlines
import ImageryJobs.Proofs.Engine.Moments
import ImageryJobs.Proofs.Engine.Tasks

/-!
How long a run may last. A task waits for its volume, its config map, its image and its batch job, and
for objects in the way of these; nothing else takes time, so the time of a run is bounded by the number
of its tasks, whatever the cluster and the observer answer.
-/

namespace ImageryJobs
namespace Engine

open EngineScript

/-- The time that an operation may take. -/
def spanOf : EngineOp → Nat
  | .cluster op => op.span
  | .report _ => 0

/-- The rules of a budget of time. -/
def timed : Rules engineInterface Nat :=
  ⟨fun left op => spanOf op ≤ left, fun left e left' => left' = left - spanOf e.op⟩

theorem left_report (n : Nat) (event : TaskEvent) : timed.Preserves (Left n) (.report event) :=
  fun left h => ⟨Nat.zero_le left, fun _ _ moved => moved ▸ h⟩

theorem Moment.Passes.time_le {m m' : Moment} {event : Event engineInterface} (h : m.Passes event m') :
    m'.time ≤ m.time + spanOf event.op := by
  obtain ⟨op, answer⟩ := event
  cases op with
  | report event => exact Nat.le_of_eq h.1
  | cluster op =>
      cases op with
      | send request => exact Nat.le_of_eq h.1
      | pause span =>
          rw [Moment.passes_pause] at h
          split at h
          · rw [h.2]
            exact Nat.le_add_right _ _
          · split at h
            · exact h.2.2
            · exact Nat.le_of_eq h

/-- What keeps to a budget is never later than the budget allows. -/
theorem time_le_of_meets {α : Type} {s rest : EngineScript α} {left : Nat} {post : α → Nat → Prop}
    {m m' : Moment} {log : List (Event engineInterface)} (h : s.Meets timed left post)
    (hf : s.Follows log rest) (hc : Course m log m') : m'.time ≤ m.time + left := by
  induction hf generalizing left m with
  | stop s =>
      cases hc
      exact Nat.le_add_right _ _
  | @answered op next answer log rest _ ih =>
      cases hc with
      | cons first later =>
          have fits : spanOf op ≤ left := h.1
          have now : _ ≤ m.time + spanOf op := Moment.Passes.time_le first
          have rest := ih (h.2 answer (left - spanOf op) rfl) later
          omega

/-! ### One task -/

section

variable {e : Engine} {jobId : String} {task : Task} {left : Nat}

/-- What a task may take: twice the wait for its volume and for its config map, four waits for its
image, twice the wait for its batch job. -/
def taskSpan (e : Engine) : Nat :=
  4 * e.config.cluster.watchTimeout + 4 * e.config.buildTimeout + 2 * e.config.batchTimeout

variable (interval : 0 < e.config.cluster.pollInterval)
include interval

theorem meetsOr_buildImage_in_time (n : Nat) (hx : Left (n + 4 * e.config.buildTimeout) left) :
    MeetsOr timed (e.buildImage jobId task) left (fun _ => Left n) fun _ => Left n := by
  refine meetsOr_buildImage (fun _ => Left n) (Left n) (Left n) (fun _ => ?_) (fun spec _ => ?_)
    (fun spec _ request _ => left_send n request) fun spec _ => Resource.clearing_in_time _ _ n
  · exact hx.spare
  · have span : ImageBuild.providingSpan (streamOf task) (buildOf jobId task spec.source)
        ⟨e.config.cluster.pollInterval, e.config.buildTimeout⟩ = 4 * e.config.buildTimeout := by
      have stream : (streamOf task).shared = true := rfl
      have build : (buildOf jobId task spec.source).shared = false := rfl
      simp only [ImageBuild.providingSpan, Resource.creationSpan, Resource.submissionSpan, stream, build,
        if_true, Bool.false_eq_true, if_false]
      omega
    have start : (ImageBuild.ofTemplates (.forProcess task.processId) (.forTask jobId task.id task.processId
        (.forProcess task.processId) spec.source)).stream.template = streamOf task := rfl
    exact ImageBuild.meetsWith_run_in_time interval n start rfl (by rwa [span])

theorem meetsOr_deploy_in_time {image : String} {config : Resource} {output : HeldVolume Resource}
    {inputs : List (HeldVolume Resource)} (n : Nat) (hx : Left (n + 2 * e.config.batchTimeout) left) :
    MeetsOr timed (e.deploy jobId task image config output inputs) left (fun _ => Left n)
      fun _ => Left n := by
  refine meetsOr_deploy (Left n) (Left n) (Left n) (Left n) rfl ?_ (fun request _ => left_send n request)
    (fun request _ => left_send n request) (fun path => left_send n _)
    (Resource.clearing_in_time _ _ n) (Resource.clearing_in_time _ _ n)
  refine (Resource.meetsWith_create_in_time interval n rfl ?_).mono (fun _ r x hr => ⟨hr.1, hr.2.2⟩)
    fun _ r x hr => hr
  rwa [Resource.creationSpan, Resource.submissionSpan, if_neg (by exact Bool.false_ne_true), ← Nat.two_mul]

theorem meets_execute_in_time {output : HeldVolume Resource} {config : Resource}
    {inputs : List (HeldVolume Resource)} {mounts : List String} (n : Nat)
    (volume : output.resource.template = e.volumeOf jobId task)
    (files : config.template = configOf jobId task mounts) (hx : Left (n + e.taskSpan) left) :
    (e.execute jobId task output config inputs).Meets timed left fun p x =>
      p.2.resource.template = e.volumeOf jobId task ∧ Left n x := by
  let deploying := n + 2 * e.config.batchTimeout
  let building := deploying + 4 * e.config.buildTimeout
  let configuring := building + 2 * e.config.cluster.watchTimeout
  have total : n + e.taskSpan = configuring + 2 * e.config.cluster.watchTimeout := by
    simp only [taskSpan, configuring, building, deploying]
    omega
  rw [total] at hx
  have twice (t : Template) (ht : t.shared = false) :
      Resource.creationSpan t e.watch = 2 * e.config.cluster.watchTimeout := by
    rw [Resource.creationSpan, Resource.submissionSpan, if_neg (by rw [ht]; exact Bool.false_ne_true),
      ← Nat.two_mul]
    rfl
  have undeployed {x : Nat} (h : Left deploying x) : Left n x := h.spare
  have unbuilt {x : Nat} (h : Left building x) : Left n x := undeployed h.spare
  have unconfigured {x : Nat} (h : Left configuring x) : Left n x := unbuilt h.spare
  refine Script.Meets.mono (meets_execute (Left configuring) (Left building) (fun _ => Left deploying)
    (fun _ => Left n) (Left n) ?volume (fun x hx => ?files) (fun x hx => ?image)
    fun config' output' built x _ _ _ _ hx => ?batch) fun p x hp => ?ended
  case volume =>
    refine (Resource.meetsWith_create_in_time interval configuring rfl ?_).mono
      (fun _ r x hr => ⟨hr.1, hr.2.2⟩) fun _ r x hr => ⟨hr.1, unconfigured hr.2⟩
    rwa [volume, twice _ rfl]
  case files =>
    refine (Resource.meetsWith_create_in_time interval building rfl ?_).mono
      (fun _ r x hr => ⟨hr.1, hr.2.2⟩) fun _ r x hr => unbuilt hr.2
    rwa [files, twice _ rfl]
  case image =>
    exact (meetsOr_buildImage_in_time interval deploying hx).mono (fun _ _ hx => hx)
      fun _ _ hx => undeployed hx
  case batch => exact meetsOr_deploy_in_time interval n hx
  case ended =>
    obtain ⟨-, ht, ended⟩ := hp
    refine ⟨ht.trans volume, ?_⟩
    obtain ⟨result, _⟩ := p
    cases result with
    | ok outcome =>
        obtain ⟨_, _, _, hx⟩ := ended
        exact hx
    | error cause => exact ended

/-! ### All tasks -/

/-- The time that is left is enough for the tasks that are left. -/
structure Affords (e : Engine) (jobId : String) (tasks rest : List Task) (arena : Arena Resource)
    (left : Nat) : Prop where
  known : rest ⊆ tasks
  outputs : arena.All (e.IsOutput jobId tasks)
  time : Left (rest.length * e.taskSpan) left

variable {tasks rest : List Task} {arena : Arena Resource}

theorem runTask_in_time (n : Nat) (ht : task ∈ tasks) (outputs : arena.All (e.IsOutput jobId tasks))
    (hx : Left (n + e.taskSpan) left) :
    (e.runTask jobId task arena).Meets timed left fun p x =>
      p.2.All (e.IsOutput jobId tasks) ∧ Left n x := by
  have clear : ∀ task ∈ tasks,
      Resource.Clearing timed.within e.ns (e.volumeOf jobId task) (Left n) (Left n) := fun _ _ =>
    Resource.clearing_in_time _ _ n
  exact meets_runTask_of_preserves (fun _ => Left (n + e.taskSpan)) (fun _ => Left n) clear
    (fun _ _ _ _ _ _ _ volume files hx => meets_execute_in_time interval n volume files hx)
    (fun _ _ _ => Resource.clearing_in_time _ _ n) ht outputs hx hx.spare

/-- One turn takes no longer than its task may, so what was enough for it and those after it is
enough for these. -/
theorem turn_in_time (h : e.Affords jobId tasks (task :: rest) arena left) :
    Turn timed e jobId task arena left (fun _ => e.Affords jobId tasks rest)
      fun arena _ => arena.All (e.IsOutput jobId tasks) := by
  obtain ⟨known, outputs, time⟩ := h
  obtain ⟨ht, known⟩ := List.cons_subset.1 known
  let n := rest.length * e.taskSpan
  have one : (task :: rest).length * e.taskSpan = n + e.taskSpan := Nat.succ_mul _ _
  rw [one] at time
  obtain ⟨allowed, kept⟩ := left_pause (n + e.taskSpan) 0 left time
  refine ⟨allowed, fun tripped x moved => ?_⟩
  have time := kept tripped x moved
  cases tripped with
  | true => exact ⟨Nat.zero_le x, fun _ _ _ => outputs⟩
  | false =>
      obtain ⟨allowed, kept⟩ := left_report (n + e.taskSpan) (.started task) x time
      refine meets_report.2 ⟨allowed, fun answer x moved => ?_⟩
      have time := kept answer x moved
      cases answer with
      | error _ => exact outputs
      | ok _ =>
          have ran := runTask_in_time interval n ht outputs time
          refine Script.Meets.mono ran fun p x hp => ?_
          obtain ⟨result, arena⟩ := p
          obtain ⟨outputs, time⟩ := hp
          cases result with
          | error cause => exact ⟨Nat.zero_le x, fun _ _ _ => outputs⟩
          | ok outcome =>
              obtain ⟨allowed, kept⟩ := left_report n (.finished task outcome) x time
              refine meets_report.2 ⟨allowed, fun answer x' moved => ?_⟩
              have time := kept answer x' moved
              cases answer with
              | error _ => exact outputs
              | ok _ => exact ⟨known, outputs, time⟩

theorem run_keeps_budget (jobId : String) (tasks : List Task) :
    (e.run jobId tasks).Meets timed (tasks.length * e.taskSpan) fun _ _ => True := by
  have perm := ordered_perm tasks
  have clear : ∀ task ∈ tasks,
      Resource.Clearing timed.within e.ns (e.volumeOf jobId task) (Left 0) (Left 0) := fun _ _ =>
    Resource.clearing_in_time _ _ 0
  -- What is left in the arena at the end is deleted, which takes no time.
  have ends : (e.run jobId tasks).Meets timed (tasks.length * e.taskSpan)
      (Ending (fun _ _ => True) fun _ _ => True) := by
    refine meets_run (fun _ => e.Affords jobId tasks)
      (fun arena _ => arena.All (e.IsOutput jobId tasks)) (fun _ _ => trivial)
      (fun arena hp => ⟨perm.subset, Arena.all_of_plan hp, ?_⟩)
      (fun _ _ _ _ _ h => turn_in_time interval h) (fun _ arena x h => ?_) fun _ arena x h => ?_
    · rw [perm.length_eq]
      exact Nat.le_refl _
    · exact Script.Meets.mono (meets_discardAll_outputs clear h.outputs (Nat.zero_le x))
        fun _ _ _ => trivial
    · exact Script.Meets.mono (meets_discardAll_outputs clear h (Nat.zero_le x)) fun _ _ _ => trivial
  exact Script.Meets.mono ends fun _ _ _ => trivial

/-- Every run ends, whatever is answered to its questions one after the other, and no moment of it is
later than what its tasks may take. -/
theorem run_ends_in_time (jobId : String) (tasks : List Task) :
    (∀ answer : Nat → (op : EngineOp) → engineInterface.Answer op, ∃ log result,
      (e.run jobId tasks).Ran log result ∧
        ∀ k event, log[k]? = some event → event.answer = answer k event.op) ∧
    ∀ (log : List (Event engineInterface)) (rest : EngineScript (Except EngineError (List TaskOutcome)))
      (m m' : Moment), (e.run jobId tasks).Follows log rest → Course m log m' →
        m'.time ≤ m.time + tasks.length * (4 * e.config.cluster.watchTimeout +
          4 * e.config.buildTimeout + 2 * e.config.batchTimeout) := by
  refine ⟨fun answer => ⟨_, _, Script.ran_play answer 0 _, fun k event h => ?_⟩,
    fun log rest m m' hf hc => time_le_of_meets (run_keeps_budget interval jobId tasks) hf hc⟩
  have answered := Script.answer_of_play answer 0 _ k event h
  rwa [Nat.zero_add] at answered

end

theorem run_ends_in_time_sample : 0 < sampleEngine.config.cluster.pollInterval ∧
    ∃ log result, (sampleEngine.run "j" sampleTasks).Ran log result ∧
      (∀ k event, log[k]? = some event → event.answer = obliging k event.op) ∧
      ∀ m m', Course m log m' → m'.time ≤ m.time + 57600000 := by
  have interval : 0 < sampleEngine.config.cluster.pollInterval := by decide
  obtain ⟨ends, inTime⟩ := run_ends_in_time interval "j" sampleTasks
  obtain ⟨log, result, ran, answered⟩ := ends obliging
  exact ⟨interval, log, result, ran, answered, fun m m' => inTime log _ m m' ran⟩

end Engine
end ImageryJobs
