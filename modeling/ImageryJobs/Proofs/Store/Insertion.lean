import ImageryJobs.Proofs.Failing
import ImageryJobs.Proofs.Members
import ImageryJobs.Store.Store
import Mathlib.Data.List.Nodup

/-!
When a job is inserted with its tasks, and what that leaves. Each task is checked against a store that
has the tasks before it. This comes to a check of each task against the store as it was, and of the
tasks against each other, so that neither their order nor the steps in between matter.
-/

namespace ImageryJobs
namespace Store

variable {s s' : Store} {job : Job} {task other : Task} {tasks : List Task} {jobId : String}

/-! ### One task -/

/-- A task can be stored: its id is new, its number is new among the tasks of its job, and its job is
stored. -/
structure Takes (s : Store) (task : Task) : Prop where
  newId : s.tasks.get? task.id = none
  newNumber : ∀ id row, s.tasks.get? id = some row → row.jobId = task.jobId →
    row.seqNum ≠ .integer task.seqNum
  owned : (s.jobs.get? task.jobId).isSome = true

/-- The store with one more task. -/
def withTask (s : Store) (task : Task) : Store :=
  { s with tasks := s.tasks.insert task.id (.ofTask task) }

theorem hasNumber_eq_false {cell : NumericCell} : s.hasNumber jobId cell = false ↔
    ∀ id row, s.tasks.get? id = some row → row.jobId = jobId → row.seqNum ≠ cell := by
  simp only [hasNumber, Dict.values, List.any_eq_false, List.mem_map, Dict.get?_eq_some_iff,
    Bool.and_eq_true, decide_eq_true_eq, not_and]
  constructor
  · exact fun h id row hmem => h row ⟨(id, row), hmem, rfl⟩
  · rintro h _ ⟨⟨id, row⟩, hmem, rfl⟩
    exact h id row hmem

theorem insertTask_eq_ok : s.insertTask task = .ok s' ↔ s.Takes task ∧ s.withTask task = s' := by
  have takes : s.Takes task ↔ s.tasks.contains task.id = false ∧
      s.hasNumber task.jobId (.integer task.seqNum) = false ∧ s.jobs.contains task.jobId = true := by
    rw [hasNumber_eq_false, Dict.contains, Dict.contains, Option.isSome_eq_false_iff,
      Option.isNone_iff_eq_none]
    exact ⟨fun h => ⟨h.newId, h.newNumber, h.owned⟩, fun h => ⟨h.1, h.2.1, h.2.2⟩⟩
  rw [takes, insertTask, withTask]
  cases s.tasks.contains task.id <;> cases s.hasNumber task.jobId (.integer task.seqNum) <;>
    cases s.jobs.contains task.jobId <;> simp

theorem takes_withTask (h : s.Takes task) : (s.withTask task).Takes other ↔
    s.Takes other ∧ other.id ≠ task.id ∧ (other.jobId, other.seqNum) ≠ (task.jobId, task.seqNum) := by
  have found (id : String) : (s.withTask task).tasks.get? id =
      if id = task.id then some (.ofTask task) else s.tasks.get? id := Dict.get?_insert ..
  constructor
  · intro ⟨newId, newNumber, owned⟩
    rw [found] at newId
    split at newId
    · cases newId
    rename_i hid
    refine ⟨⟨newId, fun id row hrow => newNumber id row ?_, owned⟩, hid, fun same => ?_⟩
    · rw [found, if_neg fun heq => ?_, hrow]
      cases h.newId.symm.trans (heq ▸ hrow)
    · obtain ⟨hjob, hnum⟩ := Prod.mk.inj same
      refine newNumber task.id (.ofTask task) (by rw [found, if_pos rfl]) hjob.symm ?_
      rw [hnum]
      rfl
  · rintro ⟨⟨newId, newNumber, owned⟩, hid, hnum⟩
    refine ⟨by rw [found, if_neg hid, newId], fun id row hrow hjob => ?_, owned⟩
    rw [found] at hrow
    split at hrow
    · cases hrow
      intro same
      have number : task.seqNum = other.seqNum := Int.ofNat.inj (NumericCell.integer.inj same)
      exact hnum (Prod.ext hjob.symm number.symm)
    · exact newNumber id row hrow hjob

/-! ### Several tasks -/

/-- Tasks can be stored together: each of them can, and they have different ids, and different numbers
if they are of the same job. -/
structure TakesAll (s : Store) (tasks : List Task) : Prop where
  each : ∀ task ∈ tasks, s.Takes task
  ids : (tasks.map (·.id)).Nodup
  numbers : (tasks.map fun task => (task.jobId, task.seqNum)).Nodup

def withTasks (s : Store) (tasks : List Task) : Store := tasks.foldl withTask s

theorem takesAll_cons :
    s.TakesAll (task :: tasks) ↔ s.Takes task ∧ (s.withTask task).TakesAll tasks := by
  constructor
  · intro ⟨each, ids, numbers⟩
    obtain ⟨first, each⟩ := List.forall_mem_cons.1 each
    obtain ⟨hid, ids⟩ := List.nodup_cons.1 ids
    obtain ⟨hnum, numbers⟩ := List.nodup_cons.1 numbers
    refine ⟨first, fun other hother => ?_, ids, numbers⟩
    refine (takes_withTask first).2 ⟨each other hother, fun same => hid ?_, fun same => hnum ?_⟩
    · exact List.mem_map.2 ⟨other, hother, same⟩
    · exact List.mem_map.2 ⟨other, hother, same⟩
  · intro ⟨first, each, ids, numbers⟩
    have apart (other : Task) (hother : other ∈ tasks) := (takes_withTask first).1 (each other hother)
    refine ⟨List.forall_mem_cons.2 ⟨first, fun other hother => (apart other hother).1⟩,
      List.nodup_cons.2 ⟨fun hmem => ?_, ids⟩, List.nodup_cons.2 ⟨fun hmem => ?_, numbers⟩⟩
    · obtain ⟨other, hother, same⟩ := List.mem_map.1 hmem
      exact (apart other hother).2.1 same
    · obtain ⟨other, hother, same⟩ := List.mem_map.1 hmem
      exact (apart other hother).2.2 same

theorem foldlM_insertTask_eq_ok :
    tasks.foldlM insertTask s = .ok s' ↔ s.TakesAll tasks ∧ s.withTasks tasks = s' := by
  induction tasks generalizing s with
  | nil =>
      have all : s.TakesAll [] := ⟨nofun, .nil, .nil⟩
      simp [withTasks, all, pure, Except.pure]
  | cons task tasks ih =>
      simp only [List.foldlM_cons, bind_eq_ok, insertTask_eq_ok, takesAll_cons, ih]
      constructor
      · rintro ⟨_, ⟨first, rfl⟩, rest, rfl⟩
        exact ⟨⟨first, rest⟩, rfl⟩
      · rintro ⟨⟨first, rest⟩, rfl⟩
        exact ⟨_, ⟨first, rfl⟩, rest, rfl⟩

@[simp] theorem jobs_withTasks (s : Store) (tasks : List Task) : (s.withTasks tasks).jobs = s.jobs := by
  induction tasks generalizing s with
  | nil => rfl
  | cons task tasks ih => exact ih _

/-- An entry for a new task. -/
def entryOf (task : Task) : String × TaskRow := (task.id, .ofTask task)

theorem entries_withTasks (h : s.TakesAll tasks) :
    (s.withTasks tasks).tasks.entries.Perm (tasks.map entryOf ++ s.tasks.entries) := by
  induction tasks generalizing s with
  | nil => exact .refl _
  | cons task tasks ih =>
      obtain ⟨first, rest⟩ := takesAll_cons.1 h
      have added : (s.withTask task).tasks.entries.Perm (entryOf task :: s.tasks.entries) :=
        Dict.perm_insert_of_get?_none first.newId _
      exact (ih rest).trans ((added.append_left _).trans List.perm_middle)

/-! ### A job with its tasks -/

/-- A job can be inserted with some tasks: its id is new, the tasks have ids that are new and different,
numbers that are new and different within a job, and jobs that are stored, or the new job. -/
structure Insertable (s : Store) (job : Job) (tasks : List Task) : Prop where
  newJob : s.jobs.get? job.id = none
  newIds : ∀ task ∈ tasks, s.tasks.get? task.id = none
  ids : (tasks.map (·.id)).Nodup
  newNumbers : ∀ task ∈ tasks, ∀ id row, s.tasks.get? id = some row → row.jobId = task.jobId →
    row.seqNum ≠ .integer task.seqNum
  numbers : (tasks.map fun task => (task.jobId, task.seqNum)).Nodup
  owned : ∀ task ∈ tasks, task.jobId = job.id ∨ (s.jobs.get? task.jobId).isSome = true

/-- The store with one more job. -/
def withJob (s : Store) (job : Job) : Store := { s with jobs := s.jobs.insert job.id (.ofJob job) }

theorem insertable_iff :
    s.Insertable job tasks ↔ s.jobs.get? job.id = none ∧ (s.withJob job).TakesAll tasks := by
  have stored (id : String) : ((s.withJob job).jobs.get? id).isSome = true ↔
      id = job.id ∨ (s.jobs.get? id).isSome = true := by
    rw [withJob, Dict.get?_insert]
    split <;> simp [*]
  constructor
  · intro ⟨newJob, newIds, ids, newNumbers, numbers, owned⟩
    refine ⟨newJob, fun task ht => ⟨newIds task ht, newNumbers task ht, ?_⟩, ids, numbers⟩
    exact (stored task.jobId).2 (owned task ht)
  · intro ⟨newJob, each, ids, numbers⟩
    exact ⟨newJob, fun task ht => (each task ht).newId, ids, fun task ht => (each task ht).newNumber,
      numbers, fun task ht => (stored task.jobId).1 (each task ht).owned⟩

/-- An insertion succeeds if it can be made, and what it leaves is the store with the job and the
tasks. -/
theorem insert_eq_ok_iff :
    s.insert job tasks = .ok s' ↔ s.Insertable job tasks ∧ (s.withJob job).withTasks tasks = s' := by
  rw [insertable_iff, insert, Dict.contains]
  cases hjob : s.jobs.get? job.id with
  | some row => simp
  | none => simpa [withJob] using foldlM_insertTask_eq_ok

/-- An insertion that succeeds adds a job and its tasks, and nothing else. -/
theorem insert_eq_ok (hi : s.insert job tasks = .ok s') :
    s.jobs.get? job.id = none ∧ s'.jobs = s.jobs.insert job.id (.ofJob job) ∧
      s'.tasks.entries.Perm (tasks.map entryOf ++ s.tasks.entries) := by
  obtain ⟨insertable, rfl⟩ := insert_eq_ok_iff.1 hi
  obtain ⟨newJob, all⟩ := insertable_iff.1 insertable
  exact ⟨newJob, jobs_withTasks _ _, entries_withTasks all⟩

theorem get?_insert (hi : s.insert job tasks = .ok s') :
    s'.jobs.get? job.id = some (.ofJob job) := by
  rw [(insert_eq_ok hi).2.1, Dict.get?_insert, if_pos rfl]

/-- No job is stored in place of another. -/
theorem get?_jobs_insert {row : JobRow} (hi : s.insert job tasks = .ok s')
    (hr : s.jobs.get? jobId = some row) : s'.jobs.get? jobId = some row := by
  obtain ⟨newJob, jobs, -⟩ := insert_eq_ok hi
  have other : jobId ≠ job.id := fun same => by cases newJob.symm.trans (same ▸ hr)
  rw [jobs, Dict.get?_insert, if_neg other, hr]

end Store
end ImageryJobs
