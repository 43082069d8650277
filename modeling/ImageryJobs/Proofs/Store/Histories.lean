import ImageryJobs.Proofs.Store.Tasks
import Mathlib.Data.List.Chain
import Mathlib.Logic.Relation

/-!
Histories of a store. Whatever operations come one after the other, the statuses of a job make a path
from its insertion on, and a task that is over keeps its status. What one operation does to the row of
one job, or to the status of one task, is said first, and carried along the history.
-/

namespace ImageryJobs

/-- The edges between the statuses of a job. -/
inductive JobStatus.Leads : JobStatus → JobStatus → Prop where
  | schedule : Leads .created .queued
  | start : Leads .queued .running
  | finish : Leads .running .finished
  | fail : Leads .running .error
  | withdraw : Leads .queued .canceled
  | stop : Leads .running .canceled

theorem JobStatus.mem_predecessors {p st : JobStatus} : p ∈ st.predecessors ↔ p.Leads st := by
  constructor
  · intro h
    cases st <;> simp only [predecessors, List.mem_cons, List.not_mem_nil, or_false] at h
    case canceled =>
      obtain rfl | rfl := h
      · exact .withdraw
      · exact .stop
    all_goals subst h; constructor
  · intro h
    cases h <;> decide

/-- The job whose row an operation is about. -/
def StoreOp.jobId? : StoreOp → Option String
  | .insert job _ => some job.id
  | .transition jobId _ _ => some jobId
  | .getJob _ | .listTasks _ | .updateTask _ _ | .cancelPending _ | .health => none

namespace Store

variable {s s' : Store} {jobId taskId : String}

def jobStatus (jobId : String) (s : Store) : Option String := (s.jobs.get? jobId).map (·.status)

def taskStatus (taskId : String) (s : Store) : Option String := (s.tasks.get? taskId).map (·.status)

/-- The store at first and after each of some operations. -/
def history (s : Store) : List StoreOp → List Store
  | [] => [s]
  | op :: ops => s :: (op.apply s).2.history ops

/-- How the status of a job changes: with its insertion, and then from edge to edge. -/
inductive Moves : Option String → Option String → Prop where
  | inserted (st : JobStatus) : Moves none (some st.name)
  | moved {p st : JobStatus} (h : p.Leads st) : Moves (some p.name) (some st.name)

/-! ### Jobs -/

theorem get?_jobs_transition_of_ne {id : String} (h : jobId ≠ id) (st : JobStatus)
    (error : Option String) :
    (s.transition id st error).2.jobs.get? jobId = s.jobs.get? jobId := by
  obtain ⟨row, -, -, ht⟩ | ⟨-, ht⟩ := s.transition_cases id st error <;> rw [ht]
  exact (Dict.get?_insert ..).trans (if_neg h)

theorem tasks_transition (s : Store) (id : String) (st : JobStatus) (error : Option String) :
    (s.transition id st error).2.tasks = s.tasks := by
  obtain ⟨row, -, -, ht⟩ | ⟨-, ht⟩ := s.transition_cases id st error <;> rw [ht]

theorem transition_refused {st : JobStatus} {error : Option String}
    (h : (s.transition jobId st error).1 = false) : (s.transition jobId st error).2 = s := by
  obtain ⟨row, -, -, ht⟩ | ⟨-, ht⟩ := s.transition_cases jobId st error <;> rw [ht] at h ⊢
  cases h

/-- A change that is made takes an edge. -/
theorem transition_made {st : JobStatus} {error : Option String}
    (h : (s.transition jobId st error).1 = true) : ∃ p : JobStatus, p.Leads st ∧
      s.jobStatus jobId = some p.name ∧
      (s.transition jobId st error).2.jobStatus jobId = some st.name := by
  obtain ⟨row, hrow, hadm, ht⟩ | ⟨-, ht⟩ := s.transition_cases jobId st error <;> rw [ht] at h ⊢
  · obtain ⟨p, hp, hname⟩ := admits_iff.1 hadm
    refine ⟨p, JobStatus.mem_predecessors.1 hp, ?_, ?_⟩
    · rw [jobStatus, hrow, hname]
      rfl
    · rw [jobStatus, Dict.get?_insert, if_pos rfl]
      rfl
  · cases h

theorem transition_made_iff {st : JobStatus} {error : Option String} :
    (s.transition jobId st error).1 = true ↔
      (s.transition jobId st error).2.jobStatus jobId ≠ s.jobStatus jobId := by
  constructor
  · intro h
    obtain ⟨p, hp, before, after⟩ := transition_made h
    rw [before, after]
    intro same
    have further := JobStatus.rank_lt (JobStatus.mem_predecessors.2 hp)
    rw [JobStatus.name_inj (Option.some.inj same)] at further
    exact Nat.lt_irrefl _ further
  · intro h
    by_contra refused
    exact h (by rw [transition_refused (Bool.eq_false_iff.2 refused)])

theorem get?_jobs_apply_of_ne {op : StoreOp} (h : op.jobId? ≠ some jobId) :
    (op.apply s).2.jobs.get? jobId = s.jobs.get? jobId := by
  cases op with
  | getJob _ | listTasks _ | cancelPending _ | health => rfl
  | updateTask id update =>
      change (s.updateTask id update).jobs.get? jobId = _
      rw [updateTask_jobs]
  | transition id st error =>
      exact get?_jobs_transition_of_ne (fun same => h (congrArg some same.symm)) st error
  | insert job tasks =>
      cases hi : s.insert job tasks with
      | error e => simp [StoreOp.apply, hi]
      | ok s' =>
          have other : jobId ≠ job.id := fun same => h (congrArg some same.symm)
          simp [StoreOp.apply, hi, (insert_eq_ok hi).2.1, Dict.get?_insert, other]

/-- An operation leaves the status of a job, or takes one edge. -/
theorem jobStatus_apply (s : Store) (op : StoreOp) (jobId : String) :
    Relation.ReflGen Moves (s.jobStatus jobId) ((op.apply s).2.jobStatus jobId) := by
  by_cases other : op.jobId? = some jobId
  case neg =>
    rw [jobStatus, jobStatus, get?_jobs_apply_of_ne other]
  cases op with
  | getJob _ | listTasks _ | updateTask _ _ | cancelPending _ | health => cases other
  | transition id st error =>
      obtain rfl := Option.some.inj other
      change Relation.ReflGen Moves _ ((s.transition id st error).2.jobStatus id)
      cases hmade : (s.transition id st error).1 with
      | true =>
          obtain ⟨p, edge, before, after⟩ := transition_made hmade
          rw [before, after]
          exact .single (.moved edge)
      | false => rw [transition_refused hmade]
  | insert job tasks =>
      obtain rfl := Option.some.inj other
      cases hi : s.insert job tasks with
      | error e =>
          simp only [StoreOp.apply, hi]
          exact .refl
      | ok s' =>
          simp only [StoreOp.apply, hi, jobStatus, get?_insert hi, (insert_eq_ok hi).1]
          exact .single (.inserted job.status)

/-! ### Tasks -/

theorem get?_tasks_insert {job : Job} {tasks : List Task} {row : TaskRow}
    (hi : s.insert job tasks = .ok s') (h : s.tasks.get? taskId = some row) :
    s'.tasks.get? taskId = some row := by
  obtain ⟨-, -, hentries⟩ := insert_eq_ok hi
  have old := List.mem_append_right (tasks.map entryOf) (Dict.get?_eq_some_iff.1 h)
  exact Dict.get?_eq_some_iff.2 (hentries.mem_iff.2 old)

theorem not_pending_of_status {row : TaskRow} {st : TaskStatus} (ended : st.isPending = false)
    (h : row.status = st.name) : row.isPending = false := by
  rw [TaskRow.isPending, h]
  cases st <;> first | decide | cases ended

/-- A task that is over keeps its status. -/
theorem taskStatus_apply {st : TaskStatus} (ended : st.isPending = false) (op : StoreOp)
    (h : s.taskStatus taskId = some st.name) :
    (op.apply s).2.taskStatus taskId = some st.name := by
  obtain ⟨row, hrow, hst⟩ := Option.map_eq_some_iff.1 h
  have settled := not_pending_of_status ended hst
  cases op with
  | getJob _ | listTasks _ | health => exact h
  | transition id st error =>
      change (s.transition id st error).2.taskStatus taskId = _
      rw [taskStatus, tasks_transition]
      exact h
  | insert job tasks =>
      cases hi : s.insert job tasks with
      | error e => simpa [StoreOp.apply, hi] using h
      | ok s' => simp [StoreOp.apply, hi, taskStatus, get?_tasks_insert hi hrow, hst]
  | cancelPending id =>
      change ((s.tasks.map _).get? taskId).map _ = _
      rw [Dict.get?_map, hrow]
      simp [isPendingOf, settled, hst]
  | updateTask id update =>
      change (s.updateTask id update).taskStatus taskId = _
      rw [updateTask]
      cases hid : s.tasks.get? id with
      | none => exact h
      | some old =>
          rw [taskStatus, Dict.get?_insert]
          split
          case isTrue same =>
            obtain rfl : row = old := Option.some.inj (hrow.symm.trans (same ▸ hid))
            simp [updated, settled, hst]
          case isFalse => exact h

/-! ### Histories -/

theorem exists_history (s : Store) (ops : List StoreOp) : ∃ later, s.history ops = s :: later := by
  cases ops with
  | nil => exact ⟨[], rfl⟩
  | cons op ops => exact ⟨_, rfl⟩

/-- What one operation does to a store is done from each store of a history to the next. -/
theorem isChain_history {R : Store → Store → Prop}
    (step : ∀ (s : Store) (op : StoreOp), R s (op.apply s).2) (s : Store) (ops : List StoreOp) :
    (s.history ops).IsChain R := by
  induction ops generalizing s with
  | nil => exact .singleton s
  | cons op ops ih =>
      obtain ⟨later, heq⟩ := exists_history (op.apply s).2 ops
      have rest := ih (op.apply s).2
      rw [history, heq]
      rw [heq] at rest
      exact .cons_cons (step s op) rest

/-- However a store is used, the statuses of a job make a path, and a task that is finished, failed or
canceled stays what it is. A change of a job's status tells whether it was made, and one that was not
leaves the store as it is. Only what is about a job touches its row, only changes of jobs and new jobs
touch rows of jobs, and only updates, cancellations and new jobs touch rows of tasks. -/
theorem statuses_advance (s : Store) (ops : List StoreOp) :
    (∀ jobId, ((s.history ops).map (jobStatus jobId)).IsChain (Relation.ReflGen Moves)) ∧
    (∀ st ∈ [TaskStatus.finished, .error, .canceled], ∀ taskId, (s.history ops).Pairwise fun t t' =>
      t.taskStatus taskId = some st.name → t'.taskStatus taskId = some st.name) ∧
    ∀ t ∈ s.history ops,
      (∀ jobId st error,
        ((t.transition jobId st error).1 = true ↔
          (t.transition jobId st error).2.jobStatus jobId ≠ t.jobStatus jobId) ∧
        ((t.transition jobId st error).1 = false → (t.transition jobId st error).2 = t) ∧
        (t.transition jobId st error).2.tasks = t.tasks) ∧
      (∀ op jobId, StoreOp.jobId? op ≠ some jobId →
        (op.apply t).2.jobs.get? jobId = t.jobs.get? jobId) ∧
      (∀ taskId update, (t.updateTask taskId update).jobs = t.jobs) ∧
      ∀ jobId, (t.cancelPending jobId).2.jobs = t.jobs := by
  refine ⟨fun jobId => ?_, fun st hst taskId => ?_, fun t _ => ⟨fun jobId st error => ?_, ?_, ?_, ?_⟩⟩
  · exact (List.isChain_map _).2 (isChain_history (fun s op => jobStatus_apply s op jobId) s ops)
  · have ended : st.isPending = false := by
      simp only [List.mem_cons, List.not_mem_nil, or_false] at hst
      obtain rfl | rfl | rfl := hst <;> rfl
    let Keeps (t t' : Store) : Prop :=
      t.taskStatus taskId = some st.name → t'.taskStatus taskId = some st.name
    have : Trans Keeps Keeps Keeps := ⟨fun h h' before => h' (h before)⟩
    exact (isChain_history (R := Keeps) (fun _ op => taskStatus_apply ended op) s ops).pairwise
  · exact ⟨transition_made_iff, transition_refused, tasks_transition t jobId st error⟩
  · exact fun _ _ => get?_jobs_apply_of_ne
  · exact updateTask_jobs t
  · exact fun _ => rfl

/-- A job that was canceled is neither finished nor queued again. -/
example : (empty.history [.insert (.create "j" "u" .null none) [], .transition "j" .queued none,
    .transition "j" .canceled none, .transition "j" .finished none,
    .transition "j" .queued none]).map (jobStatus "j") =
      [none, some "created", some "queued", some "canceled", some "canceled", some "canceled"] := by
  decide +kernel

end Store
end ImageryJobs
