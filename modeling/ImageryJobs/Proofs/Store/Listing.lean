import ImageryJobs.Proofs.Store.Tasks
import Mathlib.Data.List.Forall2

/-!
Reading tasks back from their rows. What a task does, and with what, is read as it was written
whatever has happened to the task since; a task to which nothing has happened is read as it is,
provided that its arguments can be read from their text.
-/

namespace ImageryJobs

namespace Store

variable {s : Store} {jobId : String} {rows : List TaskRow} {tasks tasks' : List Task}

/-- Tasks are listed if every row is regular and can be read. -/
theorem listTasks_eq_ok_iff : s.listTasks jobId = .ok tasks ↔
    (∀ row ∈ s.taskRows jobId, row.isRegular = true) ∧
      List.Forall₂ TaskRow.Holds (s.taskRows jobId) tasks := by
  have holds : (fun row task => TaskRow.toTask row = .ok task) = TaskRow.Holds := by
    funext row task
    exact propext TaskRow.toTask_eq_ok
  rw [listTasks]
  split
  · rename_i regular
    rw [mapM_eq_ok, holds]
    exact (and_iff_right (List.all_eq_true.1 regular)).symm
  · rename_i irregular
    refine iff_of_false nofun fun h => irregular (List.all_eq_true.2 h.1)

/-! ### Whatever has happened -/

/-- What of a task is read from what never changes in its row. -/
def coreOf (t : Task) : String × String × Nat × List Nat :=
  (t.id, t.processId, t.seqNum, t.dependsOn)

/-- What a task is planned by. -/
def planOf (t : Task) : String × Nat × List Nat := (t.id, t.seqNum, t.dependsOn)

theorem coreOf_of_holds {row : TaskRow} {task task' : Task}
    (hrow : row.core = (TaskRow.ofTask task).core) (h : row.Holds task') : coreOf task' = coreOf task := by
  simp only [TaskRow.core, Prod.mk.injEq] at hrow
  obtain ⟨hid, hproc, hnum, -, hreads⟩ := hrow
  have seqNum : task'.seqNum = task.seqNum := by
    have same := (TaskRow.integer?_of_seqNum? h.seqNum).symm.trans hnum
    exact Int.ofNat.inj (NumericCell.integer.inj same)
  have dependsOn : task'.dependsOn = task.dependsOn := by
    have read := h.dependsOn
    rw [hreads] at read
    exact Json.eq_of_read_ofNats read
  rw [coreOf, coreOf, ← h.id, ← h.processId, hid, hproc, seqNum, dependsOn]
  rfl

/-- The tasks that are listed do what those that were stored do. -/
theorem coreOf_listed
    (hrows : (s.taskRows jobId).map (·.core) = tasks.map fun t => (TaskRow.ofTask t).core)
    (h : s.listTasks jobId = .ok tasks') : tasks'.map coreOf = tasks.map coreOf := by
  have held := (listTasks_eq_ok_iff.1 h).2
  clear h
  generalize s.taskRows jobId = rows at hrows held
  induction held generalizing tasks with
  | nil =>
      obtain rfl := List.map_eq_nil_iff.1 hrows.symm
      rfl
  | cons hrow _ ih =>
      obtain ⟨task, tasks, rfl, hcore, hrows⟩ := List.map_eq_cons_iff.1 hrows.symm
      rw [List.map_cons, List.map_cons, ih hrows.symm, coreOf_of_holds hcore.symm hrow]

theorem planOf_of_coreOf (h : tasks'.map coreOf = tasks.map coreOf) :
    tasks'.map planOf = tasks.map planOf := by
  have hmap := congrArg (List.map fun t => (t.1, t.2.2)) h
  rw [List.map_map, List.map_map] at hmap
  exact hmap

/-! ### Nothing has happened -/

/-- The arguments of a task can be read from their text. -/
def Legible (t : Task) : Prop :=
  Json.read? (Json.ofMembers t.args).render = some (.ofMembers t.args)

/-- A task is read from its row if what it has in JSON can be read from its text. -/
theorem holds_ofTask {task : Task} (hnum : task.seqNum < TaskSpec.seqLimit)
    (hreads : ∀ p ∈ task.dependsOn, p < TaskSpec.seqLimit) (legible : Legible task)
    (metrics : ∀ m, task.metrics = some m → Json.read? m.render = some m) :
    (TaskRow.ofTask task).Holds task where
  id := rfl
  jobId := rfl
  processId := rfl
  seqNum := by
    have hbound : 0 ≤ (task.seqNum : Int) ∧ (task.seqNum : Int) < TaskSpec.seqLimit := by omega
    rw [TaskRow.seqNum?, TaskRow.ofTask, NumericCell.integer?, Option.bind_some, if_pos hbound,
      Int.toNat_natCast]
  status := rfl
  args := by
    rw [Json.read?_dict_any]
    change (Json.read? (Json.ofMembers task.args).render).bind _ = _
    rw [legible]
    exact Json.members?_ofMembers _
  dependsOn := Json.read?_ofNats (by decide) hreads
  error := rfl
  logs := rfl
  metrics := by
    cases hm : task.metrics with
    | none => simp [TaskRow.ofTask, hm]
    | some m => simp [TaskRow.ofTask, hm, metrics m hm]

/-- New tasks whose arguments can be read are listed as they are. -/
theorem listTasks_eq_ok (hrows : s.taskRows jobId = tasks.map .ofTask)
    (small : ∀ t ∈ tasks, t.seqNum < TaskSpec.seqLimit ∧ ∀ p ∈ t.dependsOn, p < TaskSpec.seqLimit)
    (legible : ∀ t ∈ tasks, Legible t) (new : ∀ t ∈ tasks, t.metrics = none) :
    s.listTasks jobId = .ok tasks := by
  rw [listTasks_eq_ok_iff, hrows]
  constructor
  · intro row hrow
    obtain ⟨task, -, rfl⟩ := List.mem_map.1 hrow
    rfl
  · rw [List.forall₂_map_left_iff, List.forall₂_same]
    intro task ht
    exact holds_ofTask (small task ht).1 (small task ht).2 (legible task ht) (by simp [new task ht])

end Store
end ImageryJobs
