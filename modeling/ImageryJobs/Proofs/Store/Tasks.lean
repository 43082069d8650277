import ImageryJobs.Proofs.Store.Transitions

/-!
The tasks of a job as they stand in a store. An operation changes every row by itself: which rows
there are, and their order, is settled when the job is inserted.
-/

namespace ImageryJobs

/-- What never changes in the row of a task. -/
def TaskRow.core (row : TaskRow) : String × String × NumericCell × String × String :=
  (row.id, row.processId, row.seqNum, row.args, row.dependsOn)

namespace Store

variable {s s' : Store} {jobId : String}

/-- Tasks stand under their ids, and belong to stored jobs. -/
structure Sound (s : Store) : Prop where
  keyed : ∀ key row, s.tasks.get? key = some row → row.id = key
  owned : ∀ key row, s.tasks.get? key = some row → (s.jobs.get? row.jobId).isSome = true

theorem sound_empty : Store.empty.Sound where
  keyed _ _ h := by cases h
  owned _ _ h := by cases h

/-- What an operation does to the row of a task. -/
def rowAfter (op : StoreOp) (row : TaskRow) : TaskRow :=
  match op with
  | .updateTask id update => if row.id = id then updated row update else row
  | .cancelPending jobId => if isPendingOf jobId row then canceled row else row
  | .insert _ _ | .getJob _ | .listTasks _ | .transition _ _ _ | .health => row

theorem rowAfter_cases (op : StoreOp) (row : TaskRow) :
    rowAfter op row = row ∨ (∃ update, rowAfter op row = updated row update) ∨
      rowAfter op row = canceled row := by
  cases op with
  | updateTask id update =>
      rw [rowAfter]
      split
      · exact .inr (.inl ⟨update, rfl⟩)
      · exact .inl rfl
  | cancelPending jobId =>
      rw [rowAfter]
      split
      · exact .inr (.inr rfl)
      · exact .inl rfl
  | insert _ _ | getJob _ | listTasks _ | transition _ _ _ | health => exact .inl rfl

section Columns

variable (op : StoreOp) (row : TaskRow)

@[simp] theorem id_rowAfter : (rowAfter op row).id = row.id := by
  obtain h | ⟨update, h⟩ | h := rowAfter_cases op row <;> rw [h] <;> rfl

@[simp] theorem jobId_rowAfter : (rowAfter op row).jobId = row.jobId := by
  obtain h | ⟨update, h⟩ | h := rowAfter_cases op row <;> rw [h] <;> rfl

@[simp] theorem processId_rowAfter : (rowAfter op row).processId = row.processId := by
  obtain h | ⟨update, h⟩ | h := rowAfter_cases op row <;> rw [h] <;> rfl

@[simp] theorem args_rowAfter : (rowAfter op row).args = row.args := by
  obtain h | ⟨update, h⟩ | h := rowAfter_cases op row <;> rw [h] <;> rfl

@[simp] theorem seqNum_rowAfter : (rowAfter op row).seqNum = row.seqNum := by
  obtain h | ⟨update, h⟩ | h := rowAfter_cases op row <;> rw [h] <;> rfl

@[simp] theorem dependsOn_rowAfter : (rowAfter op row).dependsOn = row.dependsOn := by
  obtain h | ⟨update, h⟩ | h := rowAfter_cases op row <;> rw [h] <;> rfl

theorem core_rowAfter : (rowAfter op row).core = row.core := by
  simp [TaskRow.core]

end Columns

theorem sound_withTask {task : Task} (h : s.Sound) (takes : s.Takes task) :
    (s.withTask task).Sound := by
  constructor
  · intro key row hrow
    rw [withTask, Dict.get?_insert] at hrow
    split at hrow
    · cases hrow
      exact ‹key = task.id›.symm
    · exact h.keyed key row hrow
  · intro key row hrow
    rw [withTask, Dict.get?_insert] at hrow
    split at hrow
    · cases hrow
      exact takes.owned
    · exact h.owned key row hrow

theorem sound_withTasks {tasks : List Task} (h : s.Sound) (all : s.TakesAll tasks) :
    (s.withTasks tasks).Sound := by
  induction tasks generalizing s with
  | nil => exact h
  | cons task tasks ih =>
      obtain ⟨first, rest⟩ := takesAll_cons.1 all
      exact ih (sound_withTask h first) rest

theorem sound_of_jobs {jobs : Dict String JobRow} (h : s.Sound)
    (hkept : ∀ id, (s.jobs.get? id).isSome = true → (jobs.get? id).isSome = true) :
    Sound { s with jobs } where
  keyed := h.keyed
  owned key row hrow := hkept _ (h.owned key row hrow)

theorem isSome_insert {row : JobRow} (id : String) {jobs : Dict String JobRow} (key : String)
    (h : (jobs.get? id).isSome = true) : ((jobs.insert key row).get? id).isSome = true := by
  rw [Dict.get?_insert]
  split
  · rfl
  · exact h

theorem sound_updateTask (h : s.Sound) (taskId : String) (update : TaskUpdate) :
    (s.updateTask taskId update).Sound := by
  rw [updateTask]
  cases ht : s.tasks.get? taskId with
  | none => exact h
  | some old =>
      constructor
      · intro key row hrow
        rw [Dict.get?_insert] at hrow
        split at hrow
        · cases hrow
          subst key
          exact h.keyed taskId old ht
        · exact h.keyed key row hrow
      · intro key row hrow
        rw [Dict.get?_insert] at hrow
        split at hrow
        · cases hrow
          exact h.owned taskId old ht
        · exact h.owned key row hrow

theorem sound_cancelPending (h : s.Sound) (jobId : String) : (s.cancelPending jobId).2.Sound := by
  have old {key : String} {row : TaskRow}
      (hrow : (s.cancelPending jobId).2.tasks.get? key = some row) :
      ∃ row', s.tasks.get? key = some row' ∧ row.id = row'.id ∧ row.jobId = row'.jobId := by
    rw [cancelPending, Dict.get?_map] at hrow
    obtain ⟨row', hrow', rfl⟩ := Option.map_eq_some_iff.1 hrow
    refine ⟨row', hrow', ?_⟩
    split <;> exact ⟨rfl, rfl⟩
  constructor
  · intro key row hrow
    obtain ⟨row', hrow', hid, -⟩ := old hrow
    exact hid.trans (h.keyed key row' hrow')
  · intro key row hrow
    obtain ⟨row', hrow', -, hjob⟩ := old hrow
    rw [hjob]
    exact h.owned key row' hrow'

theorem sound_apply (h : s.Sound) (op : StoreOp) : (op.apply s).2.Sound := by
  cases op with
  | getJob _ | listTasks _ | health => exact h
  | updateTask taskId update => exact sound_updateTask h taskId update
  | cancelPending jobId => exact sound_cancelPending h jobId
  | transition jobId status error =>
      change (s.transition jobId status error).2.Sound
      obtain ⟨row, -, -, ht⟩ | ⟨-, ht⟩ := s.transition_cases jobId status error
      · rw [ht]
        exact sound_of_jobs h fun id => isSome_insert id jobId
      · rw [ht]
        exact h
  | insert job tasks =>
      cases hi : s.insert job tasks with
      | error e => simpa [StoreOp.apply, hi] using h
      | ok s' =>
          have heq : (StoreOp.apply (.insert job tasks) s).2 = s' := by simp [StoreOp.apply, hi]
          obtain ⟨insertable, rfl⟩ := insert_eq_ok_iff.1 hi
          rw [heq]
          exact sound_withTasks (sound_of_jobs h fun id => isSome_insert id job.id)
            (insertable_iff.1 insertable).2

/-! ### Rows -/

theorem mem_values (h : s.Sound) {row : TaskRow} :
    row ∈ s.tasks.values ↔ s.tasks.get? row.id = some row := by
  rw [Dict.values, List.mem_map]
  constructor
  · rintro ⟨⟨key, row⟩, hmem, rfl⟩
    have hget := Dict.get?_eq_some_iff.2 hmem
    rwa [h.keyed key row hget]
  · exact fun hget => ⟨_, Dict.get?_eq_some_iff.1 hget, rfl⟩

/-- An operation changes each row by itself, and no other operation than an insertion adds any. -/
theorem tasks_apply (h : s.Sound) {op : StoreOp} (hop : ∀ job tasks, op ≠ .insert job tasks) :
    (op.apply s).2.tasks = s.tasks.map fun _ => rowAfter op := by
  refine Dict.ext_get? fun key => ?_
  rw [Dict.get?_map]
  cases op with
  | insert job tasks => exact absurd rfl (hop job tasks)
  | getJob _ | listTasks _ | health => exact Option.map_id'.symm
  | transition jobId status error =>
      change (s.transition jobId status error).2.tasks.get? key = _
      obtain ⟨row, -, -, ht⟩ | ⟨-, ht⟩ := s.transition_cases jobId status error <;> rw [ht] <;>
        exact Option.map_id'.symm
  | cancelPending jobId => exact Dict.get?_map ..
  | updateTask taskId update =>
      change (s.updateTask taskId update).tasks.get? key = _
      cases hkey : s.tasks.get? key with
      | none =>
          rw [updateTask]
          cases ht : s.tasks.get? taskId with
          | none => exact hkey
          | some old =>
              have other : key ≠ taskId := fun same => by cases hkey.symm.trans (same ▸ ht)
              simp [Dict.get?_insert, other, hkey]
      | some row =>
          have hid := h.keyed key row hkey
          rw [updateTask, Option.map_some, rowAfter, hid]
          by_cases same : key = taskId
          · subst same
            simp [hkey]
          · cases s.tasks.get? taskId with
            | none => simp [same, hkey]
            | some old => simp [same, hkey]

theorem values_apply (h : s.Sound) {op : StoreOp} (hop : ∀ job tasks, op ≠ .insert job tasks) :
    (op.apply s).2.tasks.values = s.tasks.values.map (rowAfter op) := by
  rw [tasks_apply h hop]
  simp [Dict.values, Dict.map, Function.comp_def]

theorem taskRows_apply (h : s.Sound) {op : StoreOp} (hop : ∀ job tasks, op ≠ .insert job tasks) :
    (op.apply s).2.taskRows jobId = (s.taskRows jobId).map (rowAfter op) := by
  have hfilter : (fun row : TaskRow => decide (row.jobId = jobId)) ∘ rowAfter op =
      fun row => decide (row.jobId = jobId) := by
    funext row
    simp
  rw [taskRows, values_apply h hop, List.filter_map, hfilter, taskRows]
  refine (List.map_mergeSort fun a _ b _ => ?_).symm
  simp

theorem perm_taskRows (s : Store) (jobId : String) :
    (s.taskRows jobId).Perm (s.tasks.values.filter (·.jobId = jobId)) :=
  List.mergeSort_perm _ _

/-- The rows of a job stand in the order of their numbers. -/
theorem pairwise_taskRows (s : Store) (jobId : String) : (s.taskRows jobId).Pairwise fun a b =>
    a.seqNum.integer?.getD 0 ≤ b.seqNum.integer?.getD 0 := by
  have sorted : (s.taskRows jobId).Pairwise fun a b =>
      decide (a.seqNum.integer?.getD 0 ≤ b.seqNum.integer?.getD 0) = true :=
    List.pairwise_mergeSort (fun a b c => by simpa using Int.le_trans)
      (fun a b => by simpa using Int.le_total _ _) _
  exact sorted.imp of_decide_eq_true

theorem nodup_ids (h : s.Sound) (jobId : String) : ((s.taskRows jobId).map (·.id)).Nodup := by
  have hkeys : s.tasks.values.map (·.id) = s.tasks.keys := by
    rw [Dict.values, Dict.keys, List.map_map]
    exact List.map_congr_left fun e he => h.keyed e.1 e.2 (Dict.get?_eq_some_iff.2 he)
  refine ((s.perm_taskRows jobId).map (·.id)).nodup_iff.2 ?_
  refine List.Nodup.sublist (List.filter_sublist.map _) ?_
  rw [hkeys]
  exact s.tasks.nodup_keys

theorem jobId_of_mem {row : TaskRow} (h : row ∈ s.taskRows jobId) : row.jobId = jobId := by
  have hmem := (s.perm_taskRows jobId).mem_iff.1 h
  simpa using (List.mem_filter.1 hmem).2

/-! ### Statuses -/

theorem isPending_congr {row row' : TaskRow} (h : row'.status = row.status) :
    row'.isPending = row.isPending := by
  rw [TaskRow.isPending, TaskRow.isPending, h]

/-- A task that is not pending keeps its status. -/
theorem status_rowAfter {row : TaskRow} (h : row.isPending = false) (op : StoreOp) :
    (rowAfter op row).status = row.status := by
  cases op with
  | insert _ _ | getJob _ | listTasks _ | transition _ _ _ | health => rfl
  | updateTask id update =>
      rw [rowAfter]
      split
      · rw [updated, h]
        rfl
      · rfl
  | cancelPending jobId =>
      rw [rowAfter, if_neg]
      simp [isPendingOf, h]

/-- A status as it is after a cancellation. -/
def settledStatus (row : TaskRow) : String :=
  if row.isPending then TaskStatus.canceled.name else row.status

theorem status_cancelPending {row : TaskRow} (h : row.jobId = jobId) :
    (rowAfter (.cancelPending jobId) row).status = settledStatus row ∧
      (rowAfter (.cancelPending jobId) row).isPending = false ∧
      (rowAfter (.cancelPending jobId) row).error = row.error := by
  have howned : isPendingOf jobId row = row.isPending := by simp [isPendingOf, h]
  rw [rowAfter, settledStatus, howned]
  by_cases hp : row.isPending = true
  · rw [if_pos hp, if_pos hp]
    exact ⟨rfl, rfl, rfl⟩
  · rw [if_neg hp, if_neg hp]
    exact ⟨rfl, by simpa using hp, rfl⟩

/-! ### Inserting -/

/-- The rows of a job are those that it had and those of the tasks that were inserted for it. -/
theorem perm_taskRows_insert {job : Job} {tasks : List Task} (hi : s.insert job tasks = .ok s')
    (jobId : String) : (s'.taskRows jobId).Perm
      ((tasks.filter (·.jobId = jobId)).map .ofTask ++ s.taskRows jobId) := by
  have values := ((insert_eq_ok hi).2.2.map Prod.snd).filter (·.jobId = jobId)
  rw [List.map_append, List.map_map, List.filter_append] at values
  have new : (tasks.map (Prod.snd ∘ entryOf)).filter (·.jobId = jobId) =
      (tasks.filter (·.jobId = jobId)).map .ofTask := List.filter_map
  rw [new] at values
  exact (s'.perm_taskRows jobId).trans (values.trans ((s.perm_taskRows jobId).symm.append_left _))

/-- The tasks of a new job stand in the order of their numbers. -/
theorem taskRows_insert (h : s.Sound) {job : Job} {tasks : List Task}
    (hi : s.insert job tasks = .ok s') (hjob : ∀ task ∈ tasks, task.jobId = job.id)
    (hsorted : tasks.Pairwise (·.seqNum < ·.seqNum)) :
    s'.taskRows job.id = tasks.map .ofTask := by
  have hnone : s.taskRows job.id = [] := by
    refine List.eq_nil_iff_forall_not_mem.2 fun row hrow => ?_
    have mem := (List.mem_filter.1 ((s.perm_taskRows job.id).mem_iff.1 hrow)).1
    have hold := h.owned _ row ((mem_values h).1 mem)
    rw [jobId_of_mem hrow, (insert_eq_ok hi).1] at hold
    cases hold
  have hperm := perm_taskRows_insert hi job.id
  have hall : tasks.filter (·.jobId = job.id) = tasks :=
    List.filter_eq_self.2 fun task ht => decide_eq_true (hjob task ht)
  rw [hnone, List.append_nil, hall] at hperm
  have hdistinct : (tasks.map (·.seqNum)).Nodup :=
    List.pairwise_map.2 (hsorted.imp fun hlt => Nat.ne_of_lt hlt)
  refine List.Perm.eq_of_pairwise ?_ (s'.pairwise_taskRows job.id) ?_ hperm
  · intro a b ha hb hab hba
    obtain ⟨t, ht, rfl⟩ := List.mem_map.1 (hperm.mem_iff.1 ha)
    obtain ⟨t', ht', rfl⟩ := List.mem_map.1 hb
    have heq : t.seqNum = t'.seqNum := by
      simp [TaskRow.ofTask, NumericCell.integer?] at hab hba
      omega
    rw [List.inj_on_of_nodup_map hdistinct ht ht' heq]
  · refine List.pairwise_map.2 (hsorted.imp fun hlt => ?_)
    simp [TaskRow.ofTask, NumericCell.integer?]
    omega

/-- A job does not change when another job is inserted. -/
theorem taskRows_insert_of_ne {job : Job} {tasks : List Task} (hi : s.insert job tasks = .ok s')
    (hjob : ∀ task ∈ tasks, task.jobId = job.id) (hne : job.id ≠ jobId) :
    s'.taskRows jobId = s.taskRows jobId := by
  have hnone : (tasks.map entryOf).filter (fun e => e.2.jobId = jobId) = [] := by
    refine List.filter_eq_nil_iff.2 fun e he hid => ?_
    obtain ⟨task, htask, rfl⟩ := List.mem_map.1 he
    exact hne ((hjob task htask).symm.trans (of_decide_eq_true hid))
  have hperm := (insert_eq_ok hi).2.2.filter fun e => e.2.jobId = jobId
  rw [List.filter_append, hnone, List.nil_append] at hperm
  -- Entries ascend by key, so a permutation of those of one job leaves them as they are.
  have heq : s'.tasks.entries.filter (fun e => e.2.jobId = jobId) =
      s.tasks.entries.filter fun e => e.2.jobId = jobId :=
    List.Perm.eq_of_pairwise
      (fun _ _ _ _ hlt hgt => absurd (Std.lt_trans hlt hgt) Std.lt_irrefl)
      (s'.tasks.ascending.filter _) (s.tasks.ascending.filter _) hperm
  have hvalues := congrArg (List.map Prod.snd) heq
  rw [taskRows, taskRows, Dict.values, Dict.values, List.filter_map, List.filter_map]
  exact congrArg (List.mergeSort · _) hvalues

/-- A job that is stored stays stored. -/
theorem isSome_apply (op : StoreOp) (h : (s.jobs.get? jobId).isSome = true) :
    ((op.apply s).2.jobs.get? jobId).isSome = true := by
  cases op with
  | getJob _ | listTasks _ | cancelPending _ | health => exact h
  | updateTask taskId update =>
      change ((s.updateTask taskId update).jobs.get? jobId).isSome = true
      rw [updateTask_jobs]
      exact h
  | transition id status error =>
      change ((s.transition id status error).2.jobs.get? jobId).isSome = true
      obtain ⟨row, -, -, ht⟩ | ⟨-, ht⟩ := s.transition_cases id status error <;> rw [ht]
      · exact isSome_insert jobId id h
      · exact h
  | insert job tasks =>
      cases hi : s.insert job tasks with
      | error e => simpa [StoreOp.apply, hi] using h
      | ok s' =>
          obtain ⟨row, hrow⟩ := Option.isSome_iff_exists.1 h
          simp [StoreOp.apply, hi, get?_jobs_insert hi hrow]

end Store
end ImageryJobs
