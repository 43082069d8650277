import ImageryJobs.Proofs.Cluster.Building
import ImageryJobs.Proofs.Engine.HandOver
import ImageryJobs.Proofs.Engine.Rounds

/-!
Contracts of the parts of a run, put together from those of the work on each object. What is known
between the parts is left open, except that a task is carried out in stages and that whatever its
end its config map and its inputs are deleted.
-/

namespace ImageryJobs

variable {σ α ε : Type} {R : Rules engineInterface σ} {x : σ}

/-- The same rules for the cluster calls of a run. -/
def Rules.within (R : Rules engineInterface σ) : Rules clusterInterface σ :=
  ⟨fun x op => R.allows x (.cluster op), fun x e x' => R.moves x (EngineScript.ofClusterEvent e) x'⟩

namespace EngineScript

theorem meets_ofCluster {s : ClusterScript α} {post : α → σ → Prop} :
    (ofCluster s).Meets R x post ↔ s.Meets R.within x post := by
  induction s generalizing x with
  | done value => rfl
  | ask op next ih => exact and_congr_right fun _ => forall₃_congr fun answer x' _ => ih answer

theorem meets_report {event : TaskEvent} {post : Except EngineError Unit → σ → Prop} :
    (report event).Meets R x post ↔ R.allows x (.report event) ∧
      ∀ (answer : Except EngineError Unit) x', R.moves x ⟨.report event, answer⟩ x' →
        post answer x' := .rfl

theorem meets_manage {work : Managing ε α} {r : Resource} {ok : α → Resource → σ → Prop}
    {error : ε → Resource → σ → Prop} :
    (manage work r).Meets R x (fun p => Ending (fun value => ok value p.2) (fun e => error e p.2) p.1) ↔
      MeetsWith R.within work r x ok error := meets_ofCluster

end EngineScript

open EngineScript

namespace Engine

variable {e : Engine} {jobId : String} {task : Task}

/-! ### Deleting -/

theorem meets_discard {r : Resource} {t : Template} {before after : σ → Prop}
    (h : Resource.Clearing R.within e.ns t before after) (ht : r.template = t) (hx : before x) :
    (e.discard r).Meets R x fun _ => after :=
  Script.meets_bind.2 (Script.Meets.mono (meets_ofCluster.2 (Resource.meets_delete h ht hx))
    fun _ _ hp => hp.2)

theorem meets_discardAll {volumes : List (HeldVolume Resource)} {inv : σ → Prop}
    (h : ∀ v ∈ volumes, ∀ x, inv x → (e.discard v.resource).Meets R x fun _ => inv) (hx : inv x) :
    (volumes.forM fun v => e.discard v.resource).Meets R x fun _ => inv := by
  induction volumes generalizing x with
  | nil => exact hx
  | cons v volumes ih =>
      obtain ⟨hv, hrest⟩ := List.forall_mem_cons.1 h
      exact Script.meets_bind.2 (Script.Meets.mono (hv x hx) fun _ _ hx => ih hrest hx)

/-! ### Stages -/

theorem meetsOr_buildImage (ok : BuiltImage → σ → Prop) (failed lost : σ → Prop)
    (unknown : e.catalog.get? task.processId = none → lost x)
    (run : ∀ spec, e.catalog.get? task.processId = some spec →
      MeetsWith R.within (ImageBuild.run e.ns ⟨e.config.cluster.pollInterval, e.config.buildTimeout⟩)
        (.ofTemplates (.forProcess task.processId) (.forTask jobId task.id task.processId
          (.forProcess task.processId) spec.source)) x
        (fun built _ => ok built)
        (fun _ b x => b.build.template = buildOf jobId task spec.source ∧ failed x))
    (inspect : ∀ spec, e.catalog.get? task.processId = some spec → ∀ request,
      Resource.Inspects e.ns (buildOf jobId task spec.source) request →
      R.within.Preserves failed (.send request))
    (clear : ∀ spec, e.catalog.get? task.processId = some spec →
      Resource.Clearing R.within e.ns (buildOf jobId task spec.source) failed lost) :
    MeetsOr R (e.buildImage jobId task) x ok fun _ => lost := by
  unfold buildImage
  cases hs : e.catalog.get? task.processId with
  | none => exact unknown hs
  | some spec =>
      refine meets_ofCluster.2 (Script.meets_bind.2 (Script.Meets.mono (run spec hs) fun p x hp => ?_))
      obtain ⟨result, b⟩ := p
      cases result with
      | ok built => exact hp
      | error cause =>
          obtain ⟨ht, hx⟩ := hp
          refine Script.meets_bind.2 (Script.Meets.mono
            (ImageBuild.meets_logs (inspect spec hs) ⟨rfl, ht, hx⟩) fun p x hb => ?_)
          exact Script.meets_bind.2 (Script.Meets.mono
            (ImageBuild.meets_cleanup (clear spec hs) hb) fun p x hp => hp.2.2)

theorem meets_metrics {batch : Resource} {inv : σ → Prop}
    (h : ∀ path, R.within.Preserves inv (.send ⟨.metrics, .get, path, none⟩)) (hx : inv x) :
    (e.metrics batch).Meets R.within x fun _ => inv := by
  unfold metrics
  cases batch.pod with
  | none => exact hx
  | some pod =>
      refine Script.meets_bind.2 (Script.Meets.mono
        (Resource.meetsOr_metrics h e.config.cluster.metrics hx) fun found x hx => ?_)
      cases found <;> exact hx

/-- What is known before a batch job is created, once it succeeded or failed, and at the end. -/
theorem meetsOr_deploy {image : String} {config : Resource} {output : HeldVolume Resource}
    {inputs : List (HeldVolume Resource)} {t : Template} (succeeded failed done lost : σ → Prop)
    (ht : t = e.batchOf jobId task image (e.mounts jobId config output inputs))
    (create : MeetsWith R.within
      (Resource.create e.ns true ⟨e.config.cluster.pollInterval, e.config.batchTimeout⟩)
      (.ofTemplate t) x (fun _ r x => r.template = t ∧ succeeded x)
      (fun _ r x => r.template = t ∧ failed x))
    (inspectSucceeded : ∀ request, Resource.Inspects e.ns t request →
      R.within.Preserves succeeded (.send request))
    (inspectFailed : ∀ request, Resource.Inspects e.ns t request →
      R.within.Preserves failed (.send request))
    (measure : ∀ path, R.within.Preserves succeeded (.send ⟨.metrics, .get, path, none⟩))
    (clearSucceeded : Resource.Clearing R.within e.ns t succeeded done)
    (clearFailed : Resource.Clearing R.within e.ns t failed lost) :
    MeetsOr R (e.deploy jobId task image config output inputs) x (fun _ => done) fun _ => lost := by
  subst ht
  refine meets_ofCluster.2 (Script.meets_bind.2 (Script.Meets.mono create fun p x hp => ?_))
  obtain ⟨created, batch⟩ := p
  cases created with
  | ok _ =>
      refine Script.meets_bind.2 (Script.Meets.mono
        (Resource.meetsWith_logs inspectSucceeded hp.1 hp.2).meets fun p x hp => ?_)
      refine Script.meets_bind.2 (Script.Meets.mono (meets_metrics measure hp.2)
        fun found x hx => ?_)
      refine Script.meets_bind.2 (Script.meets_pure.2 ?_)
      exact Script.meets_bind.2 (Script.Meets.mono
        (Resource.meets_delete clearSucceeded hp.1 hx) fun _ _ hd => hd.2)
  | error cause =>
      refine Script.meets_bind.2 (Script.Meets.mono
        (Resource.meetsWith_logs inspectFailed hp.1 hp.2).meets fun p x hp => ?_)
      refine Script.meets_bind.2 (Script.meets_pure.2 ?_)
      exact Script.meets_bind.2 (Script.Meets.mono
        (Resource.meets_delete clearFailed hp.1 hp.2) fun _ _ hd => hd.2)

/-- A task is carried out in four stages; the first that fails is the last. -/
theorem meets_execute {output : HeldVolume Resource} {config : Resource}
    {inputs : List (HeldVolume Resource)} (bound configured : σ → Prop)
    (provided done : BuiltImage → σ → Prop) (lost : σ → Prop)
    (volume : MeetsWith R.within (Resource.create e.ns true e.watch) output.resource x
      (fun _ r x => r.template = output.resource.template ∧ bound x)
      (fun _ r x => r.template = output.resource.template ∧ lost x))
    (files : ∀ x, bound x → MeetsWith R.within (Resource.create e.ns true e.watch) config x
      (fun _ r x => r.template = config.template ∧ configured x) (fun _ _ => lost))
    (image : ∀ x, configured x → MeetsOr R (e.buildImage jobId task) x provided fun _ => lost)
    (batch : ∀ (config' : Resource) output' (built : BuiltImage) x,
      config'.template = config.template → output'.producer = output.producer →
      output'.mountPath = output.mountPath →
      output'.resource.template = output.resource.template → provided built x →
      MeetsOr R (e.deploy jobId task built.image config' output' inputs) x (fun _ => done built)
        fun _ => lost) :
    (e.execute jobId task output config inputs).Meets R x fun p x =>
      p.2.producer = output.producer ∧ p.2.resource.template = output.resource.template ∧
        Ending (fun outcome x => ∃ built, outcome.image = built.image ∧
          outcome.imageReused = built.reused ∧ done built x) (fun _ => lost) p.1 x := by
  refine Script.meets_bind.2 (Script.Meets.mono (meets_manage.2 volume) fun p x hp => ?_)
  obtain ⟨made, resource⟩ := p
  have ht : resource.template = output.resource.template := by cases made <;> exact hp.1
  let Done (outcome : TaskOutcome) (x : σ) : Prop := ∃ built, outcome.image = built.image ∧
    outcome.imageReused = built.reused ∧ done built x
  refine Script.meets_bind.2 (Script.Meets.mono (show MeetsOr R _ x Done fun _ => lost from ?_)
    fun outcome x h => ⟨rfl, ht, h⟩)
  refine meetsOr_bind.2 ?_
  cases made with
  | error cause => exact hp.2
  | ok _ =>
      change MeetsOr R (liftM _ >>= _) x Done _
      refine meetsOr_bind.2 (meetsOr_liftM.2 (Script.Meets.mono (meets_manage.2 (files x hp.2))
        fun p x hp => ?_))
      obtain ⟨made, config'⟩ := p
      refine meetsOr_bind.2 ?_
      cases made with
      | error cause => exact hp
      | ok _ =>
          refine meetsOr_bind.2 ((image x hp.2).mono (fun built x hx => ?_) fun _ _ hx => hx)
          refine meetsOr_bind.2 ((batch config' { output with resource } built x hp.1 rfl rfl ht hx).mono
            (fun found x hx => ?_) fun _ _ hx => hx)
          exact ⟨built, rfl, rfl, hx⟩

/-! ### All tasks -/

/-- One turn of the loop over the tasks: the check for a cancellation, the report of the start, the
task, the report of its end. -/
def Turn (R : Rules engineInterface σ) (e : Engine) (jobId : String) (task : Task)
    (arena : Arena Resource) (x : σ) (next : TaskOutcome → Arena Resource → σ → Prop)
    (afterwards : Arena Resource → σ → Prop) : Prop :=
  (ClusterScript.pause 0).Meets R.within x fun (tripped : Bool) x =>
    if tripped then
      (report (.failed task (.cancelled task.seqNum task.processId))).Meets R x fun _ => afterwards arena
    else (report (.started task)).Meets R x fun started x =>
      match started with
      | .error _ => afterwards arena x
      | .ok _ => (e.runTask jobId task arena).Meets R x fun p x =>
          match p with
          | (.error cause, arena) => (report (.failed task cause)).Meets R x fun _ => afterwards arena
          | (.ok outcome, arena) => (report (.finished task outcome)).Meets R x fun finished x =>
              match finished with
              | .error _ => afterwards arena x
              | .ok _ => next outcome arena x

/-- What every turn hands on to the next holds at the end of all tasks, unless one ended the run. -/
theorem meets_runTasks {inv : List TaskOutcome → List Task → Arena Resource → σ → Prop}
    {afterwards : Arena Resource → σ → Prop}
    (turn : ∀ past task rest arena x, inv past (task :: rest) arena x →
      Turn R e jobId task arena x (fun outcome => inv (past ++ [outcome]) rest) afterwards)
    {past : List TaskOutcome} {tasks : List Task} {arena : Arena Resource}
    (hx : inv past tasks arena x) :
    (e.runTasks jobId tasks arena).Meets R x fun p =>
      Ending (fun outcomes => inv (past ++ outcomes) [] p.2) (fun _ => afterwards p.2) p.1 := by
  induction tasks generalizing past arena x with
  | nil =>
      change inv (past ++ []) [] arena x
      rwa [List.append_nil]
  | cons task rest ih =>
      unfold runTasks
      refine Script.meets_bind.2 (meets_ofCluster.2
        (Script.Meets.mono (turn past task rest arena x hx) fun tripped x hx => ?_))
      cases tripped with
      | true => exact Script.meets_bind.2 (Script.Meets.mono hx fun _ _ hx => hx)
      | false =>
          refine Script.meets_bind.2 (Script.Meets.mono hx fun started x hx => ?_)
          cases started with
          | error _ => exact hx
          | ok _ =>
              refine Script.meets_bind.2 (Script.Meets.mono hx fun p x hx => ?_)
              obtain ⟨ended, arena⟩ := p
              cases ended with
              | error cause => exact Script.meets_bind.2 (Script.Meets.mono hx fun _ _ hx => hx)
              | ok outcome =>
                  refine Script.meets_bind.2 (Script.Meets.mono hx fun finished x hx => ?_)
                  cases finished with
                  | error _ => exact hx
                  | ok _ =>
                      refine Script.meets_bind.2 (Script.Meets.mono (ih hx) fun p x hx => ?_)
                      obtain ⟨outcomes, arena⟩ := p
                      cases outcomes with
                      | error _ => exact hx
                      | ok outcomes => simpa [Ending, List.append_assoc] using hx

theorem meets_run (inv : List TaskOutcome → List Task → Arena Resource → σ → Prop)
    (afterwards : Arena Resource → σ → Prop) {ok : List TaskOutcome → σ → Prop}
    {error : EngineError → σ → Prop} {tasks : List Task}
    (unplanned : ∀ cause, (Arena.plan ((ordered tasks).map fun t => (t.seqNum, t.dependsOn)) :
      Except VolumeError (Arena Resource)) = .error cause → error (.volume cause) x)
    (start : ∀ arena, (Arena.plan ((ordered tasks).map fun t => (t.seqNum, t.dependsOn)) :
      Except VolumeError (Arena Resource)) = .ok arena → inv [] (ordered tasks) arena x)
    (turn : ∀ past task rest arena x, inv past (task :: rest) arena x →
      Turn R e jobId task arena x (fun outcome => inv (past ++ [outcome]) rest) afterwards)
    (drained : ∀ outcomes arena x, inv outcomes [] arena x →
      (arena.volumes.forM fun v => e.discard v.resource).Meets R x fun _ => ok outcomes)
    (cleared : ∀ cause arena x, afterwards arena x →
      (arena.volumes.forM fun v => e.discard v.resource).Meets R x fun _ => error cause) :
    (e.run jobId tasks).Meets R x (Ending ok error) := by
  unfold run
  dsimp only
  cases hp : (Arena.plan ((ordered tasks).map fun t => (t.seqNum, t.dependsOn)) :
      Except VolumeError (Arena Resource)) with
  | error cause => exact unplanned cause hp
  | ok arena =>
      refine Script.meets_bind.2 (Script.Meets.mono (meets_runTasks turn (start arena hp))
        fun p x hx => ?_)
      obtain ⟨result, arena⟩ := p
      cases result with
      | ok outcomes =>
          exact Script.meets_bind.2 (Script.Meets.mono (drained _ arena x hx) fun _ _ hx => hx)
      | error cause =>
          exact Script.meets_bind.2 (Script.Meets.mono (cleared cause arena x hx) fun _ _ hx => hx)

/-! ### What holds throughout a run -/

/-- A volume of a task of the job. -/
def IsOutput (e : Engine) (jobId : String) (tasks : List Task) (v : HeldVolume Resource) : Prop :=
  ∃ owner ∈ tasks, v.resource.template = e.volumeOf jobId owner

section Throughout

-- `begun` holds before a task is carried out, `within` after that, `outside` throughout.
variable {tasks : List Task} {begun within : Task → σ → Prop} {outside : σ → Prop}
  (leave : ∀ task x, begun task x → outside x)
  (volume : ∀ task ∈ tasks, Resource.Clearing R.within e.ns (e.volumeOf jobId task) outside outside)

include volume in
theorem meets_discardAll_outputs {volumes : List (HeldVolume Resource)}
    (hv : ∀ v ∈ volumes, e.IsOutput jobId tasks v) (hx : outside x) :
    (volumes.forM fun v => e.discard v.resource).Meets R x fun _ => outside := by
  refine meets_discardAll (fun v hmem x hx => ?_) hx
  obtain ⟨owner, ho, ht⟩ := hv v hmem
  exact meets_discard (volume owner ho) ht hx

variable
  (execute : ∀ task ∈ tasks, ∀ (output : HeldVolume Resource) config inputs mounts x,
    output.resource.template = e.volumeOf jobId task → config.template = configOf jobId task mounts →
    begun task x → (e.execute jobId task output config inputs).Meets R x fun p x =>
      p.2.resource.template = e.volumeOf jobId task ∧ within task x)
  (config : ∀ task ∈ tasks, ∀ mounts,
    Resource.Clearing R.within e.ns (configOf jobId task mounts) (within task) outside)

variable (begun within) in
include volume execute config in
theorem meets_runTask_of_preserves {arena : Arena Resource} (ht : task ∈ tasks)
    (ha : arena.All (e.IsOutput jobId tasks)) (hx : begun task x) (leave : outside x) :
    (e.runTask jobId task arena).Meets R x fun p x =>
      p.2.All (e.IsOutput jobId tasks) ∧ outside x := by
  unfold runTask
  cases htake : arena.take task.seqNum task.dependsOn with
  | error cause => exact ⟨ha, leave⟩
  | ok taken =>
      obtain ⟨inputs, left⟩ := taken
      obtain ⟨hinputs, hleft⟩ := ha.take htake
      have executed := execute task ht
        ⟨task.seqNum, dataPath jobId task.id, .ofTemplate (e.volumeOf jobId task)⟩
        (.ofTemplate (configOf jobId task (inputs.map (·.mountPath)))) inputs _ x rfl rfl hx
      refine Script.meets_bind.2 (Script.Meets.mono executed fun p x ⟨hv, hx⟩ => ?_)
      obtain ⟨result, output⟩ := p
      have own : e.IsOutput jobId tasks output := ⟨task, ht, hv⟩
      refine Script.meets_bind.2 (Script.Meets.mono
        (meets_discard (config task ht _) rfl hx) fun _ x hx => ?_)
      refine Script.meets_bind.2 (Script.Meets.mono
        (meets_discardAll_outputs volume hinputs hx) fun _ x hx => ?_)
      cases result with
      | error cause =>
          exact Script.meets_bind.2 (Script.Meets.mono (meets_discard (volume task ht) hv hx)
            fun _ _ hx => ⟨hleft, hx⟩)
      | ok outcome =>
          dsimp only
          cases hr : left.register output with
          | error cause => exact ⟨hleft, hx⟩
          | ok arena' => exact ⟨hleft.register own hr, hx⟩

include leave volume execute config in
/-- What holds before a run and is kept by everything that its tasks do holds afterwards. -/
theorem meets_run_of_preserves (pause : R.within.Preserves outside (.pause 0))
    (started : ∀ task ∈ tasks, R.Step outside (.report (.started task)) fun _ => begun task)
    (ended : ∀ event, (∀ task, event ≠ .started task) → R.Preserves outside (.report event))
    (hx : outside x) : (e.run jobId tasks).Meets R x fun _ => outside := by
  have perm := ordered_perm tasks
  let inv (_ : List TaskOutcome) (rest : List Task) (arena : Arena Resource) (x : σ) : Prop :=
    rest ⊆ tasks ∧ arena.All (e.IsOutput jobId tasks) ∧ outside x
  let afterwards (arena : Arena Resource) (x : σ) : Prop := arena.All (e.IsOutput jobId tasks) ∧ outside x
  have turn : ∀ past task rest arena x, inv past (task :: rest) arena x →
      Turn R e jobId task arena x (fun outcome => inv (past ++ [outcome]) rest) afterwards := by
    intro past task rest arena x ⟨hsub, ha, hx⟩
    obtain ⟨ht, hrest⟩ := List.cons_subset.1 hsub
    obtain ⟨allowed, kept⟩ := pause x hx
    refine ⟨allowed, fun tripped x moved => ?_⟩
    have hx := kept tripped x moved
    cases tripped with
    | true =>
        obtain ⟨allowed, kept⟩ := ended (.failed task (.cancelled task.seqNum task.processId)) nofun x hx
        exact ⟨allowed, fun answer x' moved => ⟨ha, kept answer x' moved⟩⟩
    | false =>
        obtain ⟨allowed, kept⟩ := started task ht x hx
        refine meets_report.2 ⟨allowed, fun answer x moved => ?_⟩
        have hx := kept answer x moved
        cases answer with
        | error _ => exact ⟨ha, leave task x hx⟩
        | ok _ =>
            refine Script.Meets.mono (meets_runTask_of_preserves begun within volume execute config ht ha hx
              (leave task x hx)) fun p x ⟨ha, hx⟩ => ?_
            obtain ⟨result, arena⟩ := p
            cases result with
            | error cause =>
                obtain ⟨allowed, kept⟩ := ended (.failed task cause) nofun x hx
                exact ⟨allowed, fun answer x' moved => ⟨ha, kept answer x' moved⟩⟩
            | ok outcome =>
                obtain ⟨allowed, kept⟩ := ended (.finished task outcome) nofun x hx
                refine meets_report.2 ⟨allowed, fun answer x' moved => ?_⟩
                have hx := kept answer x' moved
                cases answer with
                | error _ => exact ⟨ha, hx⟩
                | ok _ => exact ⟨hrest, ha, hx⟩
  have ends : (e.run jobId tasks).Meets R x (Ending (fun _ => outside) fun _ => outside) :=
    meets_run inv afterwards (fun _ _ => hx) (fun arena hp => ⟨perm.subset, Arena.all_of_plan hp, hx⟩) turn
      (fun _ arena x h => meets_discardAll_outputs volume h.2.1 h.2.2)
      fun _ arena x h => meets_discardAll_outputs volume h.1 h.2
  refine Script.Meets.mono ends fun result x hx => ?_
  cases result <;> exact hx

end Throughout

/-! ### Jobs one after another -/

/-- Runs jobs one after another. -/
def runAll (e : Engine) (jobs : List (String × List Task)) :
    EngineScript (List (Except EngineError (List TaskOutcome))) :=
  jobs.mapM fun job => e.run job.1 job.2

/-- What each run hands on to the next holds at the end of all. -/
theorem meets_runAll {jobs : List (String × List Task)}
    {inv : List (String × List Task) → List (Except EngineError (List TaskOutcome)) → σ → Prop}
    (step : ∀ past results job x, job ∈ jobs → inv past results x →
      (e.run job.1 job.2).Meets R x fun result => inv (past ++ [job]) (results ++ [result]))
    (hx : inv [] [] x) : (e.runAll jobs).Meets R x (inv jobs) := by
  have rest : ∀ jobs' ⊆ jobs, ∀ past results x, inv past results x →
      (e.runAll jobs').Meets R x fun results' => inv (past ++ jobs') (results ++ results') := by
    intro jobs'
    induction jobs' with
    | nil =>
        intro _ past results x hx
        simpa [runAll] using hx
    | cons job jobs' ih =>
        intro hsub past results x hx
        obtain ⟨hj, hsub⟩ := List.cons_subset.1 hsub
        rw [runAll, List.mapM_cons]
        refine Script.meets_bind.2 (Script.Meets.mono (step past results job x hj hx)
          fun result x hx => ?_)
        refine Script.meets_bind.2 (Script.Meets.mono (ih hsub _ _ x hx) fun results' x hx => ?_)
        simpa [List.append_assoc] using hx
  exact rest jobs (List.Subset.refl _) [] [] x hx

end Engine
end ImageryJobs
