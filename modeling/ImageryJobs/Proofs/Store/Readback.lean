import ImageryJobs.Proofs.Store.Listing
import Mathlib.Data.List.Perm.Basic

/-!
Reading back what was inserted. A job and its tasks are written column by column and read column by
column, so that each record is read as it was. The rows of a job are a permutation of those that it had
and of the new ones, and they are listed in the order of their numbers: what is listed is settled by
this.
-/

namespace ImageryJobs

/-- A job whose JSON is read back from its text. -/
structure Job.Storable (job : Job) : Prop where
  processGraph : job.processGraph.Storable
  output : ∀ o, job.output = some o → o.Storable

/-- A task with numbers that are in range and JSON that is read back from its text. -/
structure Task.Storable (task : Task) : Prop where
  seqNum : task.seqNum < TaskSpec.seqLimit
  dependsOn : ∀ p ∈ task.dependsOn, p < TaskSpec.seqLimit
  args : (Json.ofMembers task.args).Storable
  metrics : ∀ m, task.metrics = some m → m.Storable

theorem Task.Storable.holds {task : Task} (h : task.Storable) : (TaskRow.ofTask task).Holds task :=
  Store.holds_ofTask h.seqNum h.dependsOn h.args.reads fun m hm => (h.metrics m hm).reads

namespace Store

variable {s s' : Store} {job : Job} {tasks old listed : List Task} {rows : List TaskRow}
  {jobId : String}

/-! ### Listings -/

theorem exists_forall₂_holds : (∃ tasks, List.Forall₂ TaskRow.Holds rows tasks) ↔
    ∀ row ∈ rows, ∃ task, row.Holds task := by
  induction rows with
  | nil => simp
  | cons row rows ih =>
      rw [List.forall_mem_cons, ← ih]
      constructor
      · rintro ⟨_, h⟩
        obtain ⟨task, tasks, held, rest, rfl⟩ := List.forall₂_cons_left_iff.1 h
        exact ⟨⟨task, held⟩, tasks, rest⟩
      · rintro ⟨⟨_, held⟩, _, rest⟩
        exact ⟨_, .cons held rest⟩

/-- Tasks are listed if every row of their job can be read. -/
theorem exists_listTasks : (∃ tasks, s.listTasks jobId = .ok tasks) ↔
    ∀ row ∈ s.taskRows jobId, row.isRegular = true ∧ ∃ task, row.Holds task := by
  simp only [listTasks_eq_ok_iff, exists_and_left, exists_forall₂_holds]
  exact ⟨fun h row hrow => ⟨h.1 row hrow, h.2 row hrow⟩,
    fun h => ⟨fun row hrow => (h row hrow).1, fun row hrow => (h row hrow).2⟩⟩

theorem seqNums_of_holds (h : List.Forall₂ TaskRow.Holds rows tasks) :
    rows.map (·.seqNum) = tasks.map fun task => .integer task.seqNum := by
  induction h with
  | nil => rfl
  | cons held _ ih => rw [List.map_cons, List.map_cons, ih, TaskRow.integer?_of_seqNum? held.seqNum]

/-- Tasks are listed in the order of their numbers. -/
theorem ascending_listed (h : s.listTasks jobId = .ok tasks) :
    tasks.Pairwise (·.seqNum ≤ ·.seqNum) := by
  have cells := seqNums_of_holds (listTasks_eq_ok_iff.1 h).2
  have sorted : ((s.taskRows jobId).map (·.seqNum)).Pairwise fun a b =>
      a.integer?.getD 0 ≤ b.integer?.getD 0 := List.pairwise_map.2 (s.pairwise_taskRows jobId)
  rw [cells, List.pairwise_map] at sorted
  refine sorted.imp fun {a b} hle => ?_
  simpa [NumericCell.integer?] using hle

theorem ascending_strictly (sorted : tasks.Pairwise (·.seqNum ≤ ·.seqNum))
    (distinct : (tasks.map (·.seqNum)).Nodup) : tasks.Pairwise (·.seqNum < ·.seqNum) :=
  sorted.imp₂ (fun _ _ hle hne => Nat.lt_of_le_of_ne hle hne) (List.pairwise_map.1 distinct)

/-! ### After an insertion -/

section Inserted

variable (hi : s.insert job tasks = .ok s') (storable : ∀ task ∈ tasks, task.Storable)

include hi storable

theorem exists_listTasks_insert : (∃ listed, s'.listTasks jobId = .ok listed) ↔
    ∃ old, s.listTasks jobId = .ok old := by
  have new : ∀ row ∈ (tasks.filter (·.jobId = jobId)).map TaskRow.ofTask,
      row.isRegular = true ∧ ∃ task, row.Holds task := by
    intro row hrow
    obtain ⟨task, ht, rfl⟩ := List.mem_map.1 hrow
    exact ⟨rfl, task, (storable task (List.mem_filter.1 ht).1).holds⟩
  simp only [exists_listTasks, (perm_taskRows_insert hi jobId).mem_iff, List.forall_mem_append]
  exact and_iff_right new

/-- The new tasks of a job are listed as they were inserted, together with those that it had. -/
theorem listed_insert (hold : s.listTasks jobId = .ok old) (hlist : s'.listTasks jobId = .ok listed) :
    listed.Perm (tasks.filter (·.jobId = jobId) ++ old) := by
  have held := (listTasks_eq_ok_iff.1 hlist).2
  have new : List.Forall₂ TaskRow.Holds ((tasks.filter (·.jobId = jobId)).map .ofTask)
      (tasks.filter (·.jobId = jobId)) := by
    rw [List.forall₂_map_left_iff, List.forall₂_same]
    exact fun task ht => (storable task (List.mem_filter.1 ht).1).holds
  have all := List.rel_append new (listTasks_eq_ok_iff.1 hold).2
  obtain ⟨listed', held', perm⟩ := List.perm_comp_forall₂ (perm_taskRows_insert hi jobId) all
  have same : s'.listTasks jobId = .ok listed' :=
    listTasks_eq_ok_iff.2 ⟨(listTasks_eq_ok_iff.1 hlist).1, held'⟩
  obtain rfl := Except.ok.inj (hlist.symm.trans same)
  exact perm

/-- The numbers of a job stay different. -/
theorem distinct_insert (hold : s.listTasks jobId = .ok old) (distinct : (old.map (·.seqNum)).Nodup)
    (hlist : s'.listTasks jobId = .ok listed) : (listed.map (·.seqNum)).Nodup := by
  obtain ⟨insertable, -⟩ := insert_eq_ok_iff.1 hi
  have own {task : Task} (ht : task ∈ tasks.filter (·.jobId = jobId)) :
      task ∈ tasks ∧ task.jobId = jobId := by simpa using ht
  rw [((listed_insert hi storable hold hlist).map (·.seqNum)).nodup_iff, List.map_append,
    List.nodup_append]
  refine ⟨?_, distinct, fun n hn m hm same => ?_⟩
  · have pairs := insertable.numbers.sublist ((List.filter_sublist (p := (·.jobId = jobId))).map _)
    refine List.pairwise_map.2 ((List.pairwise_map.1 pairs).imp_of_mem fun {a b} ha hb hne same => ?_)
    exact hne (Prod.ext ((own ha).2.trans (own hb).2.symm) same)
  · obtain ⟨task, ht, rfl⟩ := List.mem_map.1 hn
    have cells := seqNums_of_holds (listTasks_eq_ok_iff.1 hold).2
    have taken : NumericCell.integer m ∈ (s.taskRows jobId).map (·.seqNum) := by
      rw [cells]
      obtain ⟨o, ho, rfl⟩ := List.mem_map.1 hm
      exact List.mem_map_of_mem ho
    obtain ⟨row, hrow, hcell⟩ := List.mem_map.1 taken
    have stored := (List.mem_filter.1 ((s.perm_taskRows jobId).mem_iff.1 hrow)).1
    obtain ⟨⟨id, _⟩, hentry, rfl⟩ := List.mem_map.1 stored
    refine insertable.newNumbers task (own ht).1 id _ (Dict.get?_eq_some_iff.2 hentry) ?_ ?_
    · exact (jobId_of_mem hrow).trans (own ht).2.symm
    · rw [hcell, same]

end Inserted

theorem getJob_insert (hi : s.insert job tasks = .ok s') (storable : job.Storable) :
    s'.getJob job.id = .ok (some job) := by
  have held : (JobRow.ofJob job).Holds job :=
    JobRow.holds_ofJob storable.processGraph.reads fun o ho => (storable.output o ho).reads
  rw [getJob, get?_insert hi]
  exact congrArg (Except.map some) (JobRow.toJob_eq_ok.2 held)

theorem get?_tasks_insert_of_not_mem (hi : s.insert job tasks = .ok s') {taskId : String}
    (h : taskId ∉ tasks.map (·.id)) : s'.tasks.get? taskId = s.tasks.get? taskId := by
  refine Option.ext fun row => ?_
  rw [Dict.get?_eq_some_iff, Dict.get?_eq_some_iff, (insert_eq_ok hi).2.2.mem_iff, List.mem_append]
  refine or_iff_right fun hmem => h ?_
  obtain ⟨task, ht, heq⟩ := List.mem_map.1 hmem
  exact List.mem_map.2 ⟨task, ht, congrArg Prod.fst heq⟩

/-- A job of a store has gained tasks: it can be listed if it could be before, and what is listed is
what was listed before together with these tasks, in the order of their numbers, and in strict order if
it was before. -/
structure Gains (s s' : Store) (jobId : String) (tasks : List Task) : Prop where
  listable : (∃ listed, s'.listTasks jobId = .ok listed) ↔ ∃ old, s.listTasks jobId = .ok old
  listed : ∀ old listed, s.listTasks jobId = .ok old → s'.listTasks jobId = .ok listed →
    listed.Perm (tasks ++ old) ∧ listed.Pairwise (·.seqNum ≤ ·.seqNum) ∧
      (old.Pairwise (·.seqNum < ·.seqNum) → listed.Pairwise (·.seqNum < ·.seqNum))

theorem gains_insert (hi : s.insert job tasks = .ok s') (storable : ∀ task ∈ tasks, task.Storable)
    (jobId : String) : Gains s s' jobId (tasks.filter (·.jobId = jobId)) where
  listable := exists_listTasks_insert hi storable
  listed old listed hold hlist := by
    have ascending := ascending_listed hlist
    refine ⟨listed_insert hi storable hold hlist, ascending, fun strict => ?_⟩
    have distinct : (old.map (·.seqNum)).Nodup :=
      List.pairwise_map.2 (strict.imp fun hlt => Nat.ne_of_lt hlt)
    exact ascending_strictly ascending (distinct_insert hi storable hold distinct hlist)

/-- An insertion is made if no id and no number is taken and each task has its job, and otherwise leaves
the store as it is. What was inserted is read back as it was, each job with its own tasks, and no other
record changes. -/
theorem insert_reads_back (s : Store) (job : Job) (tasks : List Task) :
    (¬ s.Insertable job tasks → ∃ e, (StoreOp.insert job tasks).apply s = (.error e, s)) ∧
    (s.Insertable job tasks → ∃ s', (StoreOp.insert job tasks).apply s = (.ok (), s') ∧
      (job.Storable → s'.getJob job.id = .ok (some job)) ∧
      ((∀ task ∈ tasks, task.Storable) →
        ∀ jobId, Gains s s' jobId (tasks.filter (·.jobId = jobId))) ∧
      (∀ jobId, jobId ≠ job.id → s'.jobs.get? jobId = s.jobs.get? jobId) ∧
      ∀ taskId, taskId ∉ tasks.map (·.id) → s'.tasks.get? taskId = s.tasks.get? taskId) := by
  constructor
  · intro refused
    cases hi : s.insert job tasks with
    | error e => exact ⟨e, by simp [StoreOp.apply, hi]⟩
    | ok s' => exact absurd (insert_eq_ok_iff.1 hi).1 refused
  · intro insertable
    have hi := insert_eq_ok_iff.2 ⟨insertable, rfl⟩
    refine ⟨_, by rw [StoreOp.apply, hi], getJob_insert hi, gains_insert hi, fun jobId hne => ?_,
      fun taskId => get?_tasks_insert_of_not_mem hi⟩
    rw [(insert_eq_ok hi).2.1, Dict.get?_insert, if_neg hne]

/-- A job whose output is null is read with that output, and a task that comes late for another job is
listed before a task of that job with a larger number. -/
theorem insert_reads_back_late :
    let a := Task.ofSpec "a" "j" ⟨1, "blur", ∅, []⟩
    let b := Task.ofSpec "b" "k" ⟨0, "blur", ∅, []⟩
    let c := Task.ofSpec "c" "j" ⟨0, "blur", ∅, []⟩
    let job := Job.create "k" "u" .null (some .null)
    let s := ((StoreOp.insert (.create "j" "u" .null none) [a]).apply empty).2
    ∃ s', (StoreOp.insert job [b, c]).apply s = (.ok (), s') ∧ s'.getJob "k" = .ok (some job) ∧
      s'.listTasks "j" = .ok [c, a] := by
  intro a b c job s
  have noArgs : (Json.ofMembers ∅).Storable := ⟨⟨⟩, ⟨.nil, ⟨⟩⟩, by decide⟩
  have null : Json.null.Storable := ⟨⟨⟩, ⟨⟩, by decide⟩
  have plain (id jobId : String) (n : Nat) (hn : n < TaskSpec.seqLimit) :
      (Task.ofSpec id jobId ⟨n, "blur", ∅, []⟩).Storable := ⟨hn, nofun, noArgs, nofun⟩
  have first : empty.insert (.create "j" "u" .null none) [a] = .ok s := by decide +kernel
  have old : s.listTasks "j" = .ok [a] := by
    have rows : s.taskRows "j" = [a].map .ofTask :=
      taskRows_insert sound_empty first (by simp [a, Task.ofSpec, Job.create]) (List.pairwise_singleton ..)
    rw [listTasks_eq_ok_iff, rows]
    exact ⟨by decide +kernel, .cons (plain "a" "j" 1 (by decide)).holds .nil⟩
  have insertable : s.Insertable job [b, c] := by
    have second : s.insert job [b, c] = .ok ((StoreOp.insert job [b, c]).apply s).2 := by
      decide +kernel
    exact (insert_eq_ok_iff.1 second).1
  obtain ⟨s', made, read, gains, -⟩ := (insert_reads_back s job [b, c]).2 insertable
  have gained := gains (by
    rw [List.forall_mem_cons, List.forall_mem_singleton]
    exact ⟨plain "b" "k" 0 (by decide), plain "c" "j" 0 (by decide)⟩) "j"
  obtain ⟨listed, hlist⟩ := gained.listable.2 ⟨_, old⟩
  obtain ⟨perm, -, strict⟩ := gained.listed [a] listed old hlist
  have sorted := strict (List.pairwise_singleton ..)
  have own : [b, c].filter (·.jobId = "j") = [c] := by decide +kernel
  rw [own] at perm
  have listed_eq : listed = [c, a] := List.Perm.eq_of_pairwise
    (fun _ _ _ _ hlt hgt => absurd (Nat.lt_trans hlt hgt) (Nat.lt_irrefl _)) sorted (by decide) perm
  exact ⟨s', made, read ⟨null, fun o ho => Option.some.inj ho ▸ null⟩, listed_eq ▸ hlist⟩

end Store
end ImageryJobs
