import ImageryJobs.Proofs.Engine.Refusals
import ImageryJobs.Proofs.Service.Consistency

/-!
A submission is stored as a whole or not at all, and what is stored can be run: a task is refused
for its image or for its inputs when it is submitted, or never. What a task is refused for is read
from its row as it was written, so it does not matter how long a job waits and what happens
meanwhile.
-/

namespace ImageryJobs

open Script

/-! ### Waiting -/

/-- A question that inserts no tasks but those of the job that it inserts. -/
def ServiceOp.Proper (op : ServiceOp) : Prop :=
  ∀ job tasks, op = .store (.insert job tasks) → ∀ t ∈ tasks, t.jobId = job.id

/-- A store with a job and its tasks, whatever has happened to them. -/
structure Store.Holds (s : Store) (jobId : String) (tasks : List Task) : Prop where
  sound : s.Sound
  known : (s.jobs.get? jobId).isSome = true
  rows : (s.taskRows jobId).map (·.core) = tasks.map fun t => (TaskRow.ofTask t).core

section

variable {s : Store} {jobId : String} {tasks tasks' : List Task}

theorem Store.Submitted.holds (h : s.Submitted jobId tasks) : s.Holds jobId tasks := by
  obtain ⟨row, hrow, -⟩ := h.created
  refine ⟨h.sound, Option.isSome_of_eq_some hrow, ?_⟩
  rw [h.stored, List.map_map]
  rfl

theorem Store.Holds.apply (h : s.Holds jobId tasks) {op : StoreOp}
    (proper : (ServiceOp.store op).Proper) : (op.apply s).2.Holds jobId tasks := by
  refine ⟨sound_apply h.sound op, isSome_apply op h.known, ?_⟩
  rw [← h.rows]
  have written (hop : ∀ job tasks, op ≠ .insert job tasks) :
      ((op.apply s).2.taskRows jobId).map (·.core) = (s.taskRows jobId).map (·.core) := by
    rw [taskRows_apply h.sound hop, List.map_map]
    exact List.map_congr_left fun row _ => core_rowAfter op row
  cases op with
  | getJob _ | listTasks _ | transition _ _ _ | updateTask _ _ | cancelPending _ | health =>
      exact written fun _ _ heq => by cases heq
  | insert job added =>
      cases hi : s.insert job added with
      | error e => simp [StoreOp.apply, hi]
      | ok s' =>
          -- Only another job can have been inserted, since this one is stored.
          have hne : job.id ≠ jobId := by
            rintro rfl
            have known := h.known
            rw [(insert_eq_ok hi).1] at known
            cases known
          simp [StoreOp.apply, hi, taskRows_insert_of_ne hi (proper job added rfl) hne]

theorem Shared.holds_run {s : Shared} (h : s.store.Holds jobId tasks) {later : List Entry}
    (proper : ∀ x ∈ later, x.event.op.Proper) : (s.run later).store.Holds jobId tasks := by
  induction later generalizing s with
  | nil => exact h
  | cons x later ih =>
      obtain ⟨first, proper⟩ := List.forall_mem_cons.1 proper
      have kept {op : ServiceOp} (first : op.Proper) : (s.after op).store.Holds jobId tasks := by
        cases op with
        | store op => exact h.apply first
        | send _ | pause _ _ | register _ | freshId => exact h
      exact ih (kept first) proper

end

/-! ### Storing -/

/-- What a store has after a job was inserted with its tasks: these, and what it had before. -/
structure Store.Adds (store store' : Store) (job : Job) (tasks : List Task) : Prop where
  absent : store.jobs.get? job.id = none
  jobs : store'.jobs = store.jobs.insert job.id (.ofJob job)
  stored : store'.tasks.entries.Perm (tasks.map entryOf ++ store.tasks.entries)
  owned : ∀ t ∈ tasks, t.jobId = job.id
  created : job.status = .created ∧ ∀ t ∈ tasks, t.status = .created

/-- The numbers of submitted tasks are as small as there are few tasks. -/
theorem Store.Submitted.small {s : Store} {jobId : String} {tasks : List Task}
    (h : s.Submitted jobId tasks) : ∀ t ∈ tasks,
      t.seqNum < tasks.length ∧ ∀ p ∈ t.dependsOn, p < tasks.length := by
  obtain ⟨n, numbered⟩ := h.numbered
  obtain ⟨arena, planned⟩ := h.planned
  have length : tasks.length = n + 1 := by simpa using congrArg List.length numbered
  intro t ht
  have hnum : t.seqNum < tasks.length := by
    rw [length, ← List.mem_range, ← numbered]
    exact List.mem_map_of_mem ht
  refine ⟨hnum, fun p hp => ?_⟩
  have before := (Arena.readable_of_plan planned).before _ (List.mem_map_of_mem ht) p hp
  exact Nat.lt_trans before.1 hnum

namespace Service.Accepts

variable {s : Service} {userId : String} {request : Json} {job : Job} {tasks : List Task}
  {store store' : Store}

theorem adds (accepts : s.Accepts userId request job tasks)
    (hi : store.insert job tasks = .ok store') : store.Adds store' job tasks := by
  obtain ⟨absent, jobs, stored⟩ := Store.insert_eq_ok hi
  refine ⟨absent, jobs, stored, fun t ht => ?_, ?_, fun t ht => ?_⟩
  · rw [accepts.new t ht]
    rfl
  · rw [accepts.created]
    rfl
  · rw [accepts.new t ht]
    rfl

/-- Tasks that were just submitted are listed as they are. -/
theorem listTasks (accepts : s.Accepts userId request job tasks) (sound : store.Sound)
    (hi : store.insert job tasks = .ok store') (few : tasks.length < TaskSpec.seqLimit)
    (legible : ∀ t ∈ tasks, Store.Legible t) : store'.listTasks job.id = .ok tasks := by
  have sub := Store.submitted_of_insert sound accepts hi
  refine Store.listTasks_eq_ok sub.stored (fun t ht => ?_) legible fun t ht => ?_
  · obtain ⟨hnum, hreads⟩ := sub.small t ht
    exact ⟨Nat.lt_trans hnum few, fun p hp => Nat.lt_trans (hreads p hp) few⟩
  · rw [accepts.new t ht]
    rfl

end Service.Accepts

/-! ### Running -/

/-- A worker answers a report with an error only if it cannot be recorded. -/
theorem Service.ran_record_error {event : TaskEvent} {log : List ServiceEvent} {error : EngineError}
    (h : (ServiceScript.record event).Ran log (.error error)) : ¬ error.IsRefusal := by
  obtain ⟨_, answer, _, -, -, h₂⟩ := ran_bind.1 h
  obtain ⟨-, heq⟩ := ran_pure.1 h₂
  intro refusal
  cases answer <;> cases heq
  cases refusal

theorem Service.ran_ofEngine {token : Token} {α : Type} {script : EngineScript α} {value : α}
    {log : List ServiceEvent} (h : (ServiceScript.ofEngine token script).Ran log value) :
    ∃ elog, script.Ran elog value ∧ Engine.Obliged elog := by
  induction script generalizing log with
  | done value =>
      obtain ⟨rfl, rfl⟩ := ran_done.1 h
      refine ⟨[], ran_done.2 ⟨rfl, rfl⟩, fun event error hm => ?_⟩
      cases hm
  | ask op next ih =>
      obtain ⟨log₁, answer, log₂, -, h₁, h₂⟩ := ran_bind.1 h
      obtain ⟨elog, ran, obliged⟩ := ih answer h₂
      refine ⟨⟨op, answer⟩ :: elog, .answered ran, fun event error hm => ?_⟩
      obtain heq | hm := List.mem_cons.1 hm
      -- The error is the answer to this question, which was a report then.
      · cases heq
        exact ran_record_error h₁
      · exact obliged event error hm

namespace Service

variable {s : Service} {userId : String} {request : Json} {store : Store} {log : List ServiceEvent}

/-- A submission inserts only tasks of its job, and sends nothing. -/
theorem asks_submit {result : Except ServiceError Job}
    (ran : (s.submit userId request).run.Ran log result) :
    ∀ e ∈ log, e.op.Proper ∧ ∀ r, e.op ≠ .send r := by
  have quiet {e : ServiceEvent} (h : e.op = .freshId) : e.op.Proper ∧ ∀ r, e.op ≠ .send r := by
    rw [h]
    refine ⟨fun _ _ heq => ?_, fun _ heq => ?_⟩ <;> cases heq
  obtain ⟨hfresh, -⟩ | ⟨fresh, job, tasks, answer, rfl, hfresh, accepts, -⟩ := ran_submit ran
  · exact fun e he => quiet (hfresh e he)
  · refine List.forall_mem_append.2 ⟨fun e he => quiet (hfresh e he), ?_⟩
    refine List.forall_mem_singleton.2 ⟨fun job' tasks' heq t ht => ?_, fun _ heq => ?_⟩
    · cases heq
      rw [accepts.new t ht]
      rfl
    · cases heq

/-- Tasks that do what accepted tasks do are never refused. -/
theorem Accepts.not_refused {job : Job} {tasks tasks' : List Task} {token : Token}
    {error : EngineError} (accepts : s.Accepts userId request job tasks)
    (planned : Store.Ready tasks') (heq : tasks'.map Store.coreOf = tasks.map Store.coreOf)
    (h : (ServiceScript.ofEngine token (s.engine.run job.id tasks')).Ran log (.error error)) :
    ¬ error.IsRefusal := by
  obtain ⟨elog, ran, obliged⟩ := ran_ofEngine h
  obtain ⟨-, arena, hplan⟩ := planned
  refine Engine.run_not_refused (fun t ht => ?_) (Arena.readable_of_plan hplan) ran obliged
  have hmem := List.mem_map_of_mem (f := Store.coreOf) ht
  rw [heq] at hmem
  obtain ⟨t', ht', hcore⟩ := List.mem_map.1 hmem
  have hproc : t'.processId = t.processId := congrArg (·.2.1) hcore
  exact hproc ▸ accepts.known t' ht'

/-- A submission sends nothing to the cluster, and leaves the store as it was if it fails. If it
succeeds then it has added a new job and the tasks of its graph, and nothing else. These are listed
as they are, provided that they are not too many and that their arguments can be read from their
text. However long the job waits and whatever is asked meanwhile, the tasks that are listed then
have the ids, processes, numbers and inputs of those that were submitted, and no run of them ends
because an image is unknown or because an output cannot be handed over. -/
theorem submit_all_or_nothing {result : Except ServiceError Job} (sound : store.Sound)
    (ran : (s.submit userId request).run.Ran log result)
    (legal : (Shared.initial store).Legal (log.map (Entry.mk 0))) :
    let after := (Shared.initial store).run (log.map (Entry.mk 0))
    (∀ e ∈ log, e.op.Proper ∧ ∀ r, e.op ≠ .send r) ∧
    (∀ error, result = .error error → after.store = store) ∧
    ∀ job, result = .ok job → ∃ tasks, s.Accepts userId request job tasks ∧
      store.Adds after.store job tasks ∧
      (tasks.length < TaskSpec.seqLimit → (∀ t ∈ tasks, Store.Legible t) →
        after.store.listTasks job.id = .ok tasks) ∧
      ∀ later : List Entry, (∀ x ∈ later, x.event.op.Proper) → ∀ tasks',
        (after.run later).store.listTasks job.id = .ok tasks' →
          tasks'.map Store.coreOf = tasks.map Store.coreOf ∧
          ∀ token log' error,
            (ServiceScript.ofEngine token (s.engine.run job.id tasks')).Ran log' (.error error) →
              ¬ error.IsRefusal := by
  intro after
  refine ⟨asks_submit ran, ?_⟩
  obtain ⟨error, rfl, same⟩ | ⟨job, tasks, rfl, accepts, inserted⟩ :=
    Store.store_of_submit ran legal
  · refine ⟨fun _ _ => same, fun job heq => ?_⟩
    cases heq
  refine ⟨fun error heq => ?_, fun job' heq => ?_⟩ <;> cases heq
  have sub := Store.submitted_of_insert sound accepts inserted
  refine ⟨tasks, accepts, accepts.adds inserted, accepts.listTasks sound inserted, ?_⟩
  intro later proper tasks' listed
  -- The rows keep whatever a plan and a look at the images read of a task.
  have held := Shared.holds_run (s := after) sub.holds proper
  have same := Store.coreOf_listed held.rows listed
  refine ⟨same, fun token log' error h => ?_⟩
  exact accepts.not_refused (sub.ready (Store.planOf_of_coreOf same)) same h

/-- The graph of the sample submission. -/
def submittedGraph : Json := .mk [("product_id", .string "p")]

theorem submit_all_or_nothing_sample :
    ∃ (job : Job) (tasks : List Task),
      (graphService.submit "u" sampleRequest).run.Ran sampleSubmission.1 (.ok job) ∧
      Store.empty.Adds sampleStored job tasks ∧ tasks.map (·.dependsOn) = [[], [0]] ∧
      sampleStored.listTasks job.id = .ok tasks ∧
      ∀ token log error,
        (ServiceScript.ofEngine token (graphService.engine.run job.id tasks)).Ran log
          (.error error) → ¬ error.IsRefusal := by
  have compiles : (Node.compile Node.sampleRegistries submittedGraph "0" none).toOption.map
      (fun specs => (specs.map (·.dependsOn), decide (∀ spec ∈ specs,
        Json.read? (Json.ofMembers spec.args).render = some (.ofMembers spec.args)))) =
      some ([[], [0]], true) := by decide +kernel
  obtain ⟨job, hjob, hid, submitted, legal⟩ := accepted_sample
  obtain ⟨ran, -⟩ :=
    (Shared.initial .empty).ran_serve 0 (graphService.submit "u" sampleRequest).run
  obtain ⟨-, -, accepted⟩ := submit_all_or_nothing Store.sound_empty ran legal
  obtain ⟨tasks, accepts, adds, lists, runs⟩ := accepted job hjob
  have hgraph : job.processGraph = submittedGraph := (Except.ok.inj accepts.graph).symm
  have houtput : job.output = none := by
    rw [accepts.created]
    rfl
  have compiled := accepts.compiled
  rw [hgraph, hid, houtput] at compiled
  change Node.compile Node.sampleRegistries _ _ _ = _ at compiled
  rw [compiled] at compiles
  obtain ⟨reads, legible⟩ := Prod.mk.inj (Option.some.inj compiles)
  rw [List.map_map] at reads
  have listed : sampleStored.listTasks job.id = .ok tasks := by
    refine lists ?_ fun t ht => of_decide_eq_true legible t.spec (List.mem_map_of_mem ht)
    have length : tasks.length = 2 := by simpa using congrArg List.length reads
    rw [length]
    decide
  obtain ⟨-, served⟩ := runs [] (List.forall_mem_nil _) tasks listed
  exact ⟨job, tasks, submitted, adds, reads, listed, served⟩

end Service
end ImageryJobs
