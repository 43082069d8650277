import ImageryJobs.Proofs.Graph.PostOrder
import ImageryJobs.Proofs.Service.History
import ImageryJobs.Proofs.Store.Listing

/-!
What a submission leaves in the store: a new job, and tasks in the order of their numbers whose
outputs can be handed over. However the rows of these tasks have changed since, they are read with
the same ids, numbers and inputs.
-/

namespace ImageryJobs

open Script

/-- What a store holds of a job that was submitted with some tasks. -/
structure Store.Submitted (s : Store) (jobId : String) (tasks : List Task) : Prop where
  sound : s.Sound
  created : ∃ row, s.jobs.get? jobId = some row ∧ row.status = JobStatus.created.name ∧
    row.error = none
  stored : s.taskRows jobId = tasks.map .ofTask
  fresh : ∀ t ∈ tasks, t.status = .created ∧ t.error = none
  numbered : ∃ n, tasks.map (·.seqNum) = List.range (n + 1)
  planned : ∃ arena : Arena Resource,
    Arena.plan (tasks.map fun t => (t.seqNum, t.dependsOn)) = .ok arena

/-- The task of a graph that a task is made of. -/
def Task.spec (task : Task) : TaskSpec := ⟨task.seqNum, task.processId, task.args, task.dependsOn⟩

namespace Service

/-- What a submission makes of a request that it accepts: a job, and a task of each task of the
graph. -/
structure Accepts (s : Service) (userId : String) (request : Json) (job : Job) (tasks : List Task) :
    Prop where
  graph : Node.graphOf request = .ok job.processGraph
  created : job = .create job.id userId job.processGraph
    ((request.get? "output").filter fun o => !o.isNull)
  compiled : Node.compile s.registries job.processGraph job.id job.output =
    .ok (tasks.map Task.spec)
  new : ∀ task ∈ tasks, task = .ofSpec task.id job.id task.spec
  known : ∀ task ∈ tasks, s.engine.catalog.contains task.processId = true

variable {s : Service} {store : Store} {userId jobId : String} {request : Json}
  {log : List ServiceEvent} {α β : Type}

theorem ran_freshId {result : Except ServiceError String} (h : freshId.run.Ran log result) :
    ∃ id, result = .ok id ∧ log = [⟨.freshId, id⟩] := by
  obtain ⟨id, later, rfl, h₁⟩ := ran_ask.1 h
  obtain ⟨rfl, rfl⟩ := ran_done.1 h₁
  exact ⟨id, rfl, rfl⟩

theorem ran_store {op : StoreOp} {result : Except ServiceError op.Answer}
    (h : (Service.store op).run.Ran log result) :
    ∃ answer, result = answer.mapError .store ∧ log = [⟨.store op, answer⟩] := by
  obtain ⟨answer, later, rfl, h₁⟩ := ran_ask.1 h
  obtain ⟨rfl, rfl⟩ := ran_done.1 h₁
  exact ⟨answer, rfl, rfl⟩

theorem ran_checked {ε : Type} {x : Except ε α} {f : ε → ServiceError}
    {result : Except ServiceError α}
    (h : (ExceptT.mk (pure (x.mapError f)) : Serving α).run.Ran log result) :
    log = [] ∧ result = x.mapError f := by
  obtain ⟨rfl, rfl⟩ := ran_pure.1 h
  exact ⟨rfl, rfl⟩

theorem mapError_eq_ok {ε ε' : Type} {x : Except ε α} {f : ε → ε'} {value : α}
    (h : x.mapError f = .ok value) : x = .ok value := by
  cases x with
  | error e => cases h
  | ok given => exact congrArg _ (Except.ok.inj h)

theorem ran_ofSpec {spec : TaskSpec} {result : Except ServiceError Task}
    (h : (do return Task.ofSpec (← freshId) jobId spec : Serving Task).run.Ran log result) :
    ∃ taskId, result = .ok (Task.ofSpec taskId jobId spec) ∧ log = [⟨.freshId, taskId⟩] := by
  obtain ⟨e, h₁, rfl⟩ | ⟨log₁, first, log₂, rfl, h₁, h₂⟩ := ran_run_bind.1 h
  · obtain ⟨taskId, heq, -⟩ := ran_freshId h₁
    cases heq
  · obtain ⟨taskId, heq, rfl⟩ := ran_freshId h₁
    cases heq
    obtain ⟨rfl, rfl⟩ := ran_done.1 h₂
    exact ⟨first, rfl, rfl⟩

theorem ran_ofSpecs {specs : List TaskSpec} {result : Except ServiceError (List Task)}
    (h : (specs.mapM fun spec =>
      (do return Task.ofSpec (← freshId) jobId spec : Serving Task)).run.Ran log result) :
    (∀ e ∈ log, e.op = .freshId) ∧ ∃ tasks, result = .ok tasks ∧ tasks.map Task.spec = specs ∧
      ∀ task ∈ tasks, task = .ofSpec task.id jobId task.spec := by
  induction specs generalizing log result with
  | nil =>
      obtain ⟨rfl, rfl⟩ := ran_done.1 h
      exact ⟨List.forall_mem_nil _, [], rfl, rfl, List.forall_mem_nil _⟩
  | cons spec specs ih =>
      rw [List.mapM_cons] at h
      obtain ⟨e, h₁, rfl⟩ | ⟨log₁, task, log₂, rfl, h₁, h₂⟩ := ran_run_bind.1 h
      · obtain ⟨taskId, heq, -⟩ := ran_ofSpec h₁
        cases heq
      obtain ⟨taskId, heq, rfl⟩ := ran_ofSpec h₁
      cases heq
      obtain ⟨e, h₃, rfl⟩ | ⟨log₃, rest, log₄, rfl, h₃, h₄⟩ := ran_run_bind.1 h₂
      · obtain ⟨-, tasks, heq, -⟩ := ih h₃
        cases heq
      · obtain ⟨fresh, tasks, heq, rfl, made⟩ := ih h₃
        cases heq
        obtain ⟨rfl, rfl⟩ := ran_done.1 h₄
        refine ⟨List.forall_mem_append.2 ⟨by simp, by simpa using fresh⟩, _, rfl, rfl, ?_⟩
        exact List.forall_mem_cons.2 ⟨rfl, made⟩

/-- A submission asks for ids, and unless it is refused then it inserts a new job with the tasks of
its graph. -/
theorem ran_submit {result : Except ServiceError Job}
    (h : (s.submit userId request).run.Ran log result) :
    ((∀ e ∈ log, e.op = .freshId) ∧ ∃ error, result = .error error) ∨
      ∃ (fresh : List ServiceEvent) (job : Job) (tasks : List Task)
        (answer : Except StoreError Unit),
        log = fresh ++ [⟨.store (.insert job tasks), answer⟩] ∧ (∀ e ∈ fresh, e.op = .freshId) ∧
        s.Accepts userId request job tasks ∧
        result = (answer.map fun _ => job).mapError .store := by
  obtain ⟨e, h₁, rfl⟩ | ⟨log₁, graph, log₂, rfl, h₁, h₂⟩ := ran_run_bind.1 h
  · obtain ⟨rfl, -⟩ := ran_checked h₁
    exact .inl ⟨List.forall_mem_nil _, e, rfl⟩
  obtain ⟨rfl, hgraph⟩ := ran_checked h₁
  have hgraph := mapError_eq_ok hgraph.symm
  obtain ⟨e, h₃, rfl⟩ | ⟨log₃, id, log₄, rfl, h₃, h₄⟩ := ran_run_bind.1 h₂
  · obtain ⟨id, heq, -⟩ := ran_freshId h₃
    cases heq
  obtain ⟨_, heq, rfl⟩ := ran_freshId h₃
  cases heq
  obtain ⟨e, h₅, rfl⟩ | ⟨log₅, specs, log₆, rfl, h₅, h₆⟩ := ran_run_bind.1 h₄
  · obtain ⟨rfl, -⟩ := ran_checked h₅
    exact .inl ⟨by simp, e, rfl⟩
  obtain ⟨rfl, hspecs⟩ := ran_checked h₅
  have hspecs := mapError_eq_ok hspecs.symm
  split at h₆
  · obtain ⟨rfl, rfl⟩ := ran_done.1 h₆
    exact .inl ⟨by simp, _, rfl⟩
  · rename_i hknown
    obtain ⟨e, h₇, rfl⟩ | ⟨log₇, tasks, log₈, rfl, h₇, h₈⟩ := ran_run_bind.1 h₆
    · obtain ⟨-, _, heq, -⟩ := ran_ofSpecs h₇
      cases heq
    obtain ⟨fresh, _, heq, rfl, made⟩ := ran_ofSpecs h₇
    cases heq
    have known : ∀ task ∈ tasks, s.engine.catalog.contains task.processId = true := by
      intro task ht
      simpa [Task.spec] using List.find?_eq_none.1 hknown task.spec (List.mem_map_of_mem ht)
    have fresh : ∀ e ∈ ⟨.freshId, id⟩ :: log₇, e.op = .freshId :=
      List.forall_mem_cons.2 ⟨rfl, fresh⟩
    have accepts : s.Accepts userId request (.create id userId graph
        ((request.get? "output").filter fun o => !o.isNull)) tasks :=
      ⟨hgraph, rfl, hspecs, made, known⟩
    obtain ⟨e, h₉, rfl⟩ | ⟨log₉, ⟨⟩, log₀, rfl, h₉, h₀⟩ := ran_run_bind.1 h₈
    · obtain ⟨answer, heq, rfl⟩ := ran_store h₉
      refine .inr ⟨_, _, tasks, answer, by simp, fresh, accepts, ?_⟩
      cases answer <;> cases heq
      rfl
    · obtain ⟨answer, heq, rfl⟩ := ran_store h₉
      obtain ⟨rfl, rfl⟩ := ran_done.1 h₀
      refine .inr ⟨_, _, tasks, answer, by simp, fresh, accepts, ?_⟩
      cases answer <;> cases heq
      rfl

end Service

namespace Shared

theorem run_of_fresh {s : Shared} {h : List Entry} (hop : ∀ x ∈ h, x.event.op = .freshId) :
    s.run h = s := by
  induction h with
  | nil => rfl
  | cons x h ih =>
      obtain ⟨hx, hop⟩ := List.forall_mem_cons.1 hop
      rw [run_cons, hx]
      exact ih hop

/-! ### Calls that nothing else comes between -/

/-- An answer from what is shared. The cluster cannot be reached, and ids are counted. -/
def count (s : Shared) (n : Nat) : (op : ServiceOp) → op.Answer
  | .freshId => toString n
  | op => s.answer (.error (.transport "")) op

theorem gives_count (s : Shared) (n : Nat) (op : ServiceOp) : s.Gives op (s.count n op) := by
  cases op with
  | freshId => trivial
  | send _ | pause _ _ | store _ | register _ => exact s.gives_answer (.error (.transport "")) _

def serve {α : Type} : Shared → Nat → ServiceScript α → List ServiceEvent × α
  | _, _, Script.done value => ([], value)
  | s, n, Script.ask op next =>
      let (log, value) := serve (s.after op) (n + 1) (next (s.count n op))
      (⟨op, s.count n op⟩ :: log, value)

theorem ran_serve {α : Type} (s : Shared) (n : Nat) (script : ServiceScript α) :
    script.Ran (s.serve n script).1 (s.serve n script).2 ∧
      s.Legal ((s.serve n script).1.map (Entry.mk 0)) := by
  induction script generalizing s n with
  | done value => exact ⟨.stop _, trivial⟩
  | ask op next ih =>
      obtain ⟨ran, legal⟩ := ih (s.count n op) (s.after op) (n + 1)
      exact ⟨.answered ran, s.gives_count n op, legal⟩

end Shared

namespace Store

variable {store store' : Store} {jobId : String} {tasks : List Task}

/-- A submission changes the store only by the insertion that it ends with, if that succeeds. -/
theorem store_of_submit {s : Service} {userId : String} {request : Json} {log : List ServiceEvent}
    {result : Except ServiceError Job} (ran : (s.submit userId request).run.Ran log result)
    (legal : (Shared.initial store).Legal (log.map (Entry.mk 0))) :
    let store' := ((Shared.initial store).run (log.map (Entry.mk 0))).store
    (∃ error, result = .error error ∧ store' = store) ∨
      ∃ job tasks, result = .ok job ∧ s.Accepts userId request job tasks ∧
        store.insert job tasks = .ok store' := by
  intro store'
  -- Asking for ids changes nothing, and an insertion is the last question.
  have quiet {fresh : List ServiceEvent} (hfresh : ∀ e ∈ fresh, e.op = .freshId) :
      (Shared.initial store).run (fresh.map (Entry.mk 0)) = Shared.initial store := by
    refine Shared.run_of_fresh fun x hx => ?_
    obtain ⟨e, he, rfl⟩ := List.mem_map.1 hx
    exact hfresh e he
  obtain ⟨hfresh, error, rfl⟩ | ⟨fresh, job, tasks, answer, rfl, hfresh, accepts, rfl⟩ :=
    Service.ran_submit ran
  · exact .inl ⟨error, rfl, congrArg Shared.store (quiet hfresh)⟩
  rw [List.map_append, Shared.legal_append, quiet hfresh] at legal
  obtain ⟨-, given, -⟩ := legal
  have hstore : store' = (StoreOp.apply (.insert job tasks) store).2 := by
    change ((Shared.initial store).run _).store = _
    rw [List.map_append, Shared.run_append, quiet hfresh]
    rfl
  rw [hstore]
  replace given : answer = (StoreOp.apply (.insert job tasks) store).1 := given
  rw [given]
  rw [StoreOp.apply]
  cases hi : store.insert job tasks with
  | error e => exact .inl ⟨_, rfl, rfl⟩
  | ok store'' => exact .inr ⟨job, tasks, rfl, accepts, hi⟩

theorem submitted_of_insert {s : Service} {userId : String} {request : Json} {job : Job}
    (sound : store.Sound) (accepts : s.Accepts userId request job tasks)
    (hi : store.insert job tasks = .ok store') : store'.Submitted job.id tasks := by
  obtain ⟨root, -, hspecs⟩ := map_eq_ok.1 accepts.compiled
  have numbers : tasks.map (·.seqNum) = List.range (root.count + 1) := by
    rw [← Node.numbers_taskList root job.id job.output, hspecs, List.map_map]
    rfl
  have new : ∀ t ∈ tasks, t.jobId = job.id ∧ t.status = .created ∧ t.error = none := by
    intro t ht
    rw [accepts.new t ht]
    exact ⟨rfl, rfl, rfl⟩
  have sorted : tasks.Pairwise (·.seqNum < ·.seqNum) :=
    List.pairwise_map.1 (numbers ▸ List.pairwise_lt_range)
  obtain ⟨arena, planned, -⟩ := Node.plan_taskList (ρ := Resource) root job.id job.output
  refine ⟨?_, ⟨_, get?_insert hi, ?_, ?_⟩,
    taskRows_insert sound hi (fun t ht => (new t ht).1) sorted,
    fun t ht => (new t ht).2, ⟨root.count, numbers⟩, arena, ?_⟩
  · have kept := sound_apply sound (.insert job tasks)
    rwa [StoreOp.apply, hi] at kept
  · rw [accepts.created]
    rfl
  · rw [accepts.created]
    rfl
  · rwa [hspecs, List.map_map] at planned

/-- What a submission leaves of a caller's questions. -/
theorem submitted {s : Service} {userId : String} {request : Json} {log : List ServiceEvent}
    {job : Job} (sound : store.Sound) (ran : (s.submit userId request).run.Ran log (.ok job))
    (legal : (Shared.initial store).Legal (log.map (Entry.mk 0))) :
    ∃ tasks, ((Shared.initial store).run (log.map (Entry.mk 0))).store.Submitted job.id tasks := by
  obtain ⟨_, heq, -⟩ | ⟨_, tasks, heq, accepts, hi⟩ := store_of_submit ran legal
  · cases heq
  · cases heq
    exact ⟨tasks, submitted_of_insert sound accepts hi⟩

/-! ### Reading the tasks -/

/-- Tasks that run in the order in which they are listed, and whose outputs can be handed over. -/
def Ready (tasks : List Task) : Prop :=
  Engine.ordered tasks = tasks ∧ ∃ arena : Arena Resource,
    Arena.plan (tasks.map fun t => (t.seqNum, t.dependsOn)) = .ok arena

theorem Submitted.ready (h : store.Submitted jobId tasks) {tasks' : List Task}
    (heq : tasks'.map planOf = tasks.map planOf) : Ready tasks' := by
  have numbers : tasks'.map (·.seqNum) = tasks.map (·.seqNum) := by
    simpa [planOf, Function.comp_def] using congrArg (List.map (·.2.1)) heq
  have plans : tasks'.map (fun t => (t.seqNum, t.dependsOn)) =
      tasks.map fun t => (t.seqNum, t.dependsOn) := by
    simpa [planOf, Function.comp_def] using congrArg (List.map (·.2)) heq
  constructor
  · obtain ⟨n, numbered⟩ := h.numbered
    have sorted : (tasks'.map (·.seqNum)).Pairwise (· < ·) := by
      rw [numbers, numbered]
      exact List.pairwise_lt_range
    refine List.mergeSort_of_pairwise ((List.pairwise_map.1 sorted).imp fun hlt => ?_)
    exact decide_eq_true (Nat.le_of_lt hlt)
  · rw [plans]
    exact h.planned

end Store
end ImageryJobs
