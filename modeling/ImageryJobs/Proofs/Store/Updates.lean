import ImageryJobs.Proofs.Store.Listing

/-!
Updates of tasks, replayed. Whatever else is done to a store, the row of a task is the outcome of the
updates of the task and of the cancellations of its job, in their order: what an update comes with is
written over what was there, and a status is taken while the task is pending. One operation is looked
at for each column, and a column of the outcome is then a fold over the operations.
-/

namespace ImageryJobs

/-- A status after others were given one after the other. Each is taken while the status is pending. -/
def TaskStatus.settled (st : TaskStatus) (given : List TaskStatus) : TaskStatus :=
  given.foldl (fun st next => if st.isPending then next else st) st

theorem TaskRow.isPending_of_status {row : TaskRow} {st : TaskStatus} (h : row.status = st.name) :
    row.isPending = st.isPending := by
  rw [isPending, h]
  cases st <;> decide

namespace Store

variable {s : Store} {ops ops' : List StoreOp} {row : TaskRow} {taskId jobId : String}

/-! ### Rows -/

/-- A row after operations were carried out one after the other. -/
def rowAfterAll (ops : List StoreOp) (row : TaskRow) : TaskRow :=
  ops.foldl (fun row op => rowAfter op row) row

@[simp] theorem rowAfterAll_nil : rowAfterAll [] row = row := rfl

@[simp] theorem rowAfterAll_cons {op : StoreOp} :
    rowAfterAll (op :: ops) row = rowAfterAll ops (rowAfter op row) := rfl

@[simp] theorem rowAfterAll_append :
    rowAfterAll (ops ++ ops') row = rowAfterAll ops' (rowAfterAll ops row) := List.foldl_append

theorem map_rowAfterAll_append (rows : List TaskRow) :
    rows.map (rowAfterAll (ops ++ ops')) = (rows.map (rowAfterAll ops)).map (rowAfterAll ops') := by
  rw [List.map_map]
  exact List.map_congr_left fun row _ => rowAfterAll_append

theorem rowAfterAll_keeps (ops : List StoreOp) (row : TaskRow) :
    (rowAfterAll ops row).id = row.id ∧ (rowAfterAll ops row).seqNum = row.seqNum ∧
      (rowAfterAll ops row).dependsOn = row.dependsOn ∧
      (rowAfterAll ops row).jobId = row.jobId := by
  induction ops generalizing row with
  | nil => exact ⟨rfl, rfl, rfl, rfl⟩
  | cons op ops ih => simpa using ih (rowAfter op row)

theorem core_rowAfterAll (ops : List StoreOp) (row : TaskRow) :
    (rowAfterAll ops row).core = row.core := by
  induction ops generalizing row with
  | nil => rfl
  | cons op ops ih => rw [rowAfterAll_cons, ih, core_rowAfter]

theorem isRegular_rowAfter (op : StoreOp) (h : row.isRegular = true) :
    (rowAfter op row).isRegular = true := by
  simp only [TaskRow.isRegular, Bool.and_eq_true] at h ⊢
  obtain heq | ⟨update, heq⟩ | heq := rowAfter_cases op row <;> rw [heq]
  · exact h
  · exact ⟨h.1, rfl⟩
  · exact ⟨h.1, rfl⟩

theorem isRegular_rowAfterAll (ops : List StoreOp) (h : row.isRegular = true) :
    (rowAfterAll ops row).isRegular = true := by
  induction ops generalizing row with
  | nil => exact h
  | cons op ops ih => exact ih (isRegular_rowAfter op h)

theorem status_rowAfterAll (h : row.isPending = false) (ops : List StoreOp) :
    (rowAfterAll ops row).status = row.status := by
  induction ops generalizing row with
  | nil => rfl
  | cons op ops ih =>
      have same := status_rowAfter h op
      exact (ih ((isPending_congr same).trans h)).trans same

/-- A task that was canceled or ended stays as it was then. -/
theorem status_of_cancelPending (ops ops' : List StoreOp) (h : row.jobId = jobId) :
    (rowAfterAll (ops ++ .cancelPending jobId :: ops') row).status =
        settledStatus (rowAfterAll ops row) ∧
      (rowAfterAll (ops ++ .cancelPending jobId :: ops') row).isPending = false := by
  obtain ⟨-, -, -, hjob⟩ := rowAfterAll_keeps ops row
  obtain ⟨hstatus, hpending, -⟩ := status_cancelPending (hjob.trans h)
  rw [rowAfterAll_append, rowAfterAll_cons]
  have stays := status_rowAfterAll hpending ops'
  exact ⟨stays.trans hstatus, (isPending_congr stays).trans hpending⟩

/-! ### Columns that are written over -/

/-- How an operation updates a task. -/
def updateOf? (taskId : String) : StoreOp → Option TaskUpdate
  | .updateTask id update => if id = taskId then some update else none
  | .insert _ _ | .getJob _ | .listTasks _ | .transition _ _ _ | .cancelPending _ | .health => none

def updatesOf (taskId : String) (ops : List StoreOp) : List TaskUpdate :=
  ops.filterMap (updateOf? taskId)

theorem updatesOf_append (taskId : String) (ops ops' : List StoreOp) :
    updatesOf taskId (ops ++ ops') = updatesOf taskId ops ++ updatesOf taskId ops' :=
  List.filterMap_append

/-- The last value that operations give to a field of a task. -/
def lastGiven {α : Type} (given : TaskUpdate → Option α) (taskId : String) (ops : List StoreOp) :
    Option α :=
  ((updatesOf taskId ops).filterMap given).getLast?

theorem lastGiven_cons {α : Type} (given : TaskUpdate → Option α) (op : StoreOp) :
    lastGiven given taskId (op :: ops) =
      (lastGiven given taskId ops).or ((updateOf? taskId op).bind given) := by
  rw [lastGiven, lastGiven, updatesOf, updatesOf, List.filterMap_cons]
  cases updateOf? taskId op with
  | none => exact Option.or_none.symm
  | some update =>
      rw [List.filterMap_cons, Option.bind_some]
      cases given update with
      | none => exact Option.or_none.symm
      | some value => exact List.getLast?_cons.trans (by cases List.getLast? _ <;> rfl)

/-- A column that an update writes over with what it comes with, and that nothing else changes. -/
structure Overwrites {α : Type} (column : TaskRow → Option α) (given : TaskUpdate → Option α) :
    Prop where
  updated : ∀ row update, column (updated row update) = (given update).or (column row)
  canceled : ∀ row, column (canceled row) = column row

theorem overwrites_error : Overwrites (·.error) (·.error) := ⟨fun _ _ => rfl, fun _ => rfl⟩

theorem overwrites_logs : Overwrites (·.logs) (·.logs) := ⟨fun _ _ => rfl, fun _ => rfl⟩

theorem overwrites_metrics : Overwrites (·.metrics) (·.metrics.map Json.render) :=
  ⟨fun _ _ => rfl, fun _ => rfl⟩

namespace Overwrites

variable {α : Type} {column : TaskRow → Option α} {given : TaskUpdate → Option α}

theorem rowAfter (h : Overwrites column given) (op : StoreOp) (row : TaskRow) :
    column (Store.rowAfter op row) = ((updateOf? row.id op).bind given).or (column row) := by
  cases op with
  | insert _ _ | getJob _ | listTasks _ | transition _ _ _ | health => rfl
  | cancelPending jobId =>
      rw [Store.rowAfter]
      split
      · exact h.canceled row
      · rfl
  | updateTask id update =>
      rw [Store.rowAfter, updateOf?]
      by_cases hid : row.id = id
      · rw [if_pos hid, if_pos hid.symm]
        exact h.updated row update
      · rw [if_neg hid, if_neg (Ne.symm hid)]
        rfl

/-- A row has what the last update came with, whatever its status was then. -/
theorem rowAfterAll (h : Overwrites column given) (ops : List StoreOp) (row : TaskRow) :
    column (Store.rowAfterAll ops row) = (lastGiven given row.id ops).or (column row) := by
  induction ops generalizing row with
  | nil => rfl
  | cons op ops ih => rw [rowAfterAll_cons, ih, id_rowAfter, h.rowAfter, lastGiven_cons, Option.or_assoc]

end Overwrites

theorem lastGiven_map {α β : Type} (given : TaskUpdate → Option α) (f : α → β) :
    lastGiven (fun u => (given u).map f) taskId ops = (lastGiven given taskId ops).map f := by
  rw [lastGiven, lastGiven, ← List.getLast?_map, List.map_filterMap]

/-! ### Statuses -/

/-- The status that an operation gives to a task of a job. -/
def statusOf? (taskId jobId : String) : StoreOp → Option TaskStatus
  | .updateTask id update => if id = taskId then update.status else none
  | .cancelPending id => if id = jobId then some .canceled else none
  | .insert _ _ | .getJob _ | .listTasks _ | .transition _ _ _ | .health => none

def statusesOf (taskId jobId : String) (ops : List StoreOp) : List TaskStatus :=
  ops.filterMap (statusOf? taskId jobId)

theorem status_rowAfter_eq {st : TaskStatus} (op : StoreOp) (h : row.status = st.name) :
    (rowAfter op row).status = (st.settled (statusOf? row.id row.jobId op).toList).name := by
  have pending := TaskRow.isPending_of_status h
  cases op with
  | insert _ _ | getJob _ | listTasks _ | transition _ _ _ | health => exact h
  | updateTask id update =>
      rw [rowAfter, statusOf?]
      by_cases hid : row.id = id
      · rw [if_pos hid, if_pos hid.symm, updated, pending, h]
        cases update.status <;> cases hp : st.isPending <;> simp [TaskStatus.settled, hp]
      · rw [if_neg hid, if_neg (Ne.symm hid)]
        exact h
  | cancelPending id =>
      rw [rowAfter, statusOf?, isPendingOf, pending]
      by_cases hjob : row.jobId = id
      · cases hp : st.isPending <;> simp [hjob, TaskStatus.settled, hp, h, canceled]
      · simp [hjob, Ne.symm hjob, TaskStatus.settled, h]

/-- A row has the status that is left when those that were given are taken one after the other. -/
theorem status_rowAfterAll_eq {st : TaskStatus} (ops : List StoreOp) (h : row.status = st.name) :
    (rowAfterAll ops row).status = (st.settled (statusesOf row.id row.jobId ops)).name := by
  induction ops generalizing row st with
  | nil => exact h
  | cons op ops ih =>
      rw [rowAfterAll_cons, ih (status_rowAfter_eq op h), id_rowAfter, jobId_rowAfter, statusesOf,
        statusesOf, List.filterMap_cons]
      cases statusOf? row.id row.jobId op <;> rfl

/-- A status without a meaning is never taken for a pending one. -/
theorem isPending_of_ofName? (h : TaskStatus.ofName? row.status = none) : row.isPending = false := by
  have unnamed (st : TaskStatus) : row.status ≠ st.name := fun same => by
    rw [TaskStatus.ofName?_eq_some.2 same] at h
    cases h
  simp [TaskRow.isPending, unnamed]

/-! ### Records -/

/-- What operations leave of the row of a task: the last error, logs and metrics that they came with, and
the status that they settled. -/
structure Replayed (ops : List StoreOp) (row row' : TaskRow) : Prop where
  core : row'.core = row.core
  jobId : row'.jobId = row.jobId
  error : row'.error = (lastGiven (·.error) row.id ops).or row.error
  logs : row'.logs = (lastGiven (·.logs) row.id ops).or row.logs
  metrics : row'.metrics = ((lastGiven (·.metrics) row.id ops).map Json.render).or row.metrics
  status : ∀ st, TaskStatus.ofName? row.status = some st →
    row'.status = (st.settled (statusesOf row.id row.jobId ops)).name
  unnamed : TaskStatus.ofName? row.status = none → row'.status = row.status

theorem replayed_rowAfterAll (ops : List StoreOp) (row : TaskRow) :
    Replayed ops row (rowAfterAll ops row) where
  core := core_rowAfterAll ops row
  jobId := (rowAfterAll_keeps ops row).2.2.2
  error := overwrites_error.rowAfterAll ops row
  logs := overwrites_logs.rowAfterAll ops row
  metrics := by
    rw [overwrites_metrics.rowAfterAll ops row, lastGiven_map (·.metrics)]
  status _ h := status_rowAfterAll_eq ops (TaskStatus.ofName?_eq_some.1 h)
  unnamed h := status_rowAfterAll (isPending_of_ofName? h) ops

/-- A task as operations leave it. -/
def replayed (ops : List StoreOp) (task : Task) : Task :=
  { task with
    status := task.status.settled (statusesOf task.id task.jobId ops)
    error := (lastGiven (·.error) task.id ops).or task.error
    logs := (lastGiven (·.logs) task.id ops).or task.logs
    metrics := (lastGiven (·.metrics) task.id ops).or task.metrics }

theorem Replayed.holds {task : Task} {row' : TaskRow} (h : Replayed ops row row') (held : row.Holds task)
    (metrics : ∀ m, lastGiven (·.metrics) task.id ops = some m → m.Storable) :
    row'.Holds (replayed ops task) := by
  have core := h.core
  simp only [TaskRow.core, Prod.mk.injEq] at core
  obtain ⟨hid, hproc, hnum, hargs, hreads⟩ := core
  have seqNum : row'.seqNum? = row.seqNum? := by rw [TaskRow.seqNum?, hnum, TaskRow.seqNum?]
  have named := TaskStatus.ofName?_eq_some.2 held.status
  exact {
    id := hid.trans held.id
    jobId := h.jobId.trans held.jobId
    processId := hproc.trans held.processId
    seqNum := seqNum.trans held.seqNum
    status := by rw [h.status _ named, held.id, held.jobId]; rfl
    args := hargs ▸ held.args
    dependsOn := hreads ▸ held.dependsOn
    error := by rw [h.error, held.id, held.error]; rfl
    logs := by rw [h.logs, held.id, held.logs]; rfl
    metrics := by
      rw [h.metrics, held.id, replayed]
      cases last : lastGiven (·.metrics) task.id ops with
      | none => exact held.metrics
      | some m => exact congrArg some (metrics m last).reads }

/-! ### Replay -/

/-- A store after operations were carried out one after the other. -/
def after (s : Store) (ops : List StoreOp) : Store := ops.foldl (fun s op => (op.apply s).2) s

section Rows

variable (h : s.Sound) (hops : ∀ op ∈ ops, ∀ job tasks, op ≠ .insert job tasks)

include h hops

theorem tasks_after : (s.after ops).tasks = s.tasks.map fun _ => rowAfterAll ops := by
  induction ops generalizing s with
  | nil => exact Dict.ext_get? fun key => by rw [Dict.get?_map]; exact Option.map_id'.symm
  | cons op ops ih =>
      obtain ⟨hop, hops⟩ := List.forall_mem_cons.1 hops
      refine (ih (sound_apply h op) hops).trans (Dict.ext_get? fun key => ?_)
      rw [tasks_apply h hop, Dict.get?_map, Dict.get?_map, Dict.get?_map, Option.map_map]
      rfl

theorem taskRows_after (jobId : String) :
    (s.after ops).taskRows jobId = (s.taskRows jobId).map (rowAfterAll ops) := by
  induction ops generalizing s with
  | nil => exact (List.map_id' _).symm
  | cons op ops ih =>
      obtain ⟨hop, hops⟩ := List.forall_mem_cons.1 hops
      refine (ih (sound_apply h op) hops).trans ?_
      rw [taskRows_apply h hop, List.map_map]
      rfl

/-- Tasks that are listed are listed with what was given to them since. -/
theorem listTasks_after {tasks : List Task} (hlist : s.listTasks jobId = .ok tasks)
    (metrics : ∀ task ∈ tasks, ∀ m, lastGiven (·.metrics) task.id ops = some m → m.Storable) :
    (s.after ops).listTasks jobId = .ok (tasks.map (replayed ops)) := by
  obtain ⟨regular, held⟩ := listTasks_eq_ok_iff.1 hlist
  rw [listTasks_eq_ok_iff, taskRows_after h hops]
  constructor
  · intro row hrow
    obtain ⟨old, hold, rfl⟩ := List.mem_map.1 hrow
    exact isRegular_rowAfterAll ops (regular old hold)
  · rw [List.forall₂_map_left_iff, List.forall₂_map_right_iff]
    clear hlist regular
    generalize s.taskRows jobId = rows at held
    induction held with
    | nil => exact .nil
    | cons hrow _ ih =>
        obtain ⟨hm, metrics⟩ := List.forall_mem_cons.1 metrics
        exact .cons ((replayed_rowAfterAll ops _).holds hrow hm) (ih metrics)

end Rows

/-! ### Cancellations and single updates -/

theorem tasks_cancelPending (s : Store) (taskId jobId : String) :
    (s.cancelPending jobId).2.tasks.get? taskId =
      (s.tasks.get? taskId).map fun row => if isPendingOf jobId row then canceled row else row :=
  Dict.get?_map ..

theorem canceled_ne (h : isPendingOf jobId row = true) : canceled row ≠ row := by
  intro same
  have pending : row.isPending = true := by
    rw [isPendingOf, Bool.and_eq_true] at h
    exact h.2
  rw [← same] at pending
  cases pending

/-- As many tasks are counted as change. -/
theorem count_changed (s : Store) (jobId : String) :
    (s.cancelPending jobId).1 = (s.tasks.keys.filter fun id =>
      (s.cancelPending jobId).2.tasks.get? id ≠ s.tasks.get? id).length := by
  change (s.tasks.values.filter (isPendingOf jobId)).length = _
  rw [Dict.values, Dict.keys, List.filter_map, List.filter_map, List.length_map, List.length_map]
  refine congrArg List.length (List.filter_congr fun e he => ?_)
  have hget := Dict.get?_eq_some_iff.2 he
  rw [Function.comp_apply, Function.comp_apply, tasks_cancelPending, hget, Option.map_some]
  cases hp : isPendingOf jobId e.2 with
  | true => simpa using canceled_ne hp
  | false => simp

theorem length_filter_isPending {rows : List TaskRow} {tasks : List Task}
    (h : List.Forall₂ TaskRow.Holds rows tasks) :
    (rows.filter (·.isPending)).length = (tasks.filter (·.status.isPending)).length := by
  induction h with
  | nil => rfl
  | cons held _ ih =>
      simp only [List.filter_cons, TaskRow.isPending_of_status held.status]
      split
      · rw [List.length_cons, List.length_cons, ih]
      · exact ih

/-- As many tasks are counted as are listed as pending. -/
theorem count_listed {tasks : List Task} (h : s.listTasks jobId = .ok tasks) :
    (s.cancelPending jobId).1 = (tasks.filter (·.status.isPending)).length := by
  rw [← length_filter_isPending (listTasks_eq_ok_iff.1 h).2,
    ((s.perm_taskRows jobId).filter (·.isPending)).length_eq, List.filter_filter]
  refine congrArg List.length (List.filter_congr fun row _ => ?_)
  exact Bool.and_comm ..

/-- A cancellation counts the pending tasks of a job, and these are the tasks that it changes. -/
structure Cancels (s : Store) (jobId : String) : Prop where
  listed : ∀ tasks, s.listTasks jobId = .ok tasks →
    (s.cancelPending jobId).1 = (tasks.filter (·.status.isPending)).length
  changed : (s.cancelPending jobId).1 =
    (s.tasks.keys.filter fun id => (s.cancelPending jobId).2.tasks.get? id ≠ s.tasks.get? id).length
  pending : ∀ taskId row, s.tasks.get? taskId = some row → row.jobId = jobId → row.isPending = true →
    (s.cancelPending jobId).2.tasks.get? taskId = some (canceled row)
  others : ∀ taskId row, s.tasks.get? taskId = some row → row.jobId ≠ jobId ∨ row.isPending = false →
    (s.cancelPending jobId).2.tasks.get? taskId = some row

theorem cancels (s : Store) (jobId : String) : s.Cancels jobId where
  listed _ := count_listed
  changed := count_changed s jobId
  pending taskId row hrow hjob hp := by
    rw [tasks_cancelPending, hrow]
    simp [isPendingOf, hjob, hp]
  others taskId row hrow hout := by
    rw [tasks_cancelPending, hrow]
    obtain hjob | hp := hout <;> simp [isPendingOf, *]

theorem updateTask_unknown (h : s.tasks.get? taskId = none) (update : TaskUpdate) :
    s.updateTask taskId update = s := by
  rw [updateTask, h]

theorem tasks_updateTask_of_ne {id : String} (h : id ≠ taskId) (update : TaskUpdate) :
    (s.updateTask taskId update).tasks.get? id = s.tasks.get? id := by
  rw [updateTask]
  cases s.tasks.get? taskId with
  | none => rfl
  | some row => exact (Dict.get?_insert ..).trans (if_neg h)

/-- However tasks are updated and canceled, the row of each is what replaying the updates of the task
and the cancellations of its job makes of it, and a task that could be listed is listed with the last
error, logs and metrics that were given and with the status that was settled. Whatever is stored, a
cancellation counts and changes the pending tasks of its job, and an update changes the row of its task
and no other. -/
theorem updates_replay (h : s.Sound) (hops : ∀ op ∈ ops, ∀ job tasks, op ≠ .insert job tasks) :
    (∀ taskId, s.tasks.get? taskId = none → (s.after ops).tasks.get? taskId = none) ∧
    (∀ taskId row, s.tasks.get? taskId = some row →
      ∃ row', (s.after ops).tasks.get? taskId = some row' ∧ Replayed ops row row') ∧
    (∀ jobId tasks, s.listTasks jobId = .ok tasks →
      (∀ task ∈ tasks, ∀ m, lastGiven (·.metrics) task.id ops = some m → m.Storable) →
      (s.after ops).listTasks jobId = .ok (tasks.map (replayed ops))) ∧
    (∀ (t : Store) jobId, t.Cancels jobId) ∧
    (∀ (t : Store) taskId update, t.tasks.get? taskId = none → t.updateTask taskId update = t) ∧
    ∀ (t : Store) taskId update id, id ≠ taskId →
      (t.updateTask taskId update).tasks.get? id = t.tasks.get? id := by
  have rows (taskId : String) :
      (s.after ops).tasks.get? taskId = (s.tasks.get? taskId).map (rowAfterAll ops) := by
    rw [tasks_after h hops, Dict.get?_map]
  refine ⟨fun taskId hnone => ?_, fun taskId row hrow => ?_, ?_, cancels, ?_, ?_⟩
  · rw [rows, hnone]
    rfl
  · exact ⟨_, by rw [rows, hrow]; rfl, replayed_rowAfterAll ops row⟩
  · exact fun _ _ hlist metrics => listTasks_after h hops hlist metrics
  · exact fun _ _ update hnone => updateTask_unknown hnone update
  · exact fun _ _ update _ hne => tasks_updateTask_of_ne hne update

/-- A task that was canceled while it was running keeps that status, and takes the logs and metrics that
arrive later. -/
theorem updates_replay_late :
    let job := Job.create "j" "u" .null none
    let tasks := [Task.ofSpec "a" "j" ⟨0, "blur", ∅, []⟩, Task.ofSpec "b" "j" ⟨1, "blur", ∅, [0]⟩]
    let ops : List StoreOp := [.updateTask "a" ⟨some .running, none, some "one", none⟩,
      .updateTask "b" ⟨some .finished, none, none, none⟩, .cancelPending "j", .cancelPending "k",
      .updateTask "c" ⟨none, some "lost", none, none⟩,
      .updateTask "a" ⟨some .finished, none, some "two", some (.array [.string "pod"])⟩]
    ((StoreOp.insert job tasks).apply empty).2.Sound ∧
    (∀ op ∈ ops, ∀ job tasks, op ≠ .insert job tasks) ∧
    (((StoreOp.insert job tasks).apply empty).2.after ops).listTasks "j" =
      .ok [⟨"a", "j", "blur", 0, .canceled, ∅, [], none, some "two", some (.array [.string "pod"])⟩,
        ⟨"b", "j", "blur", 1, .finished, ∅, [0], none, none, none⟩] := by
  intro job tasks ops
  have sound : ((StoreOp.insert job tasks).apply empty).2.Sound := sound_apply sound_empty _
  have hops : ∀ op ∈ ops, ∀ job tasks, op ≠ .insert job tasks := by
    simp [ops]
  have inserted : empty.insert job tasks = .ok ((StoreOp.insert job tasks).apply empty).2 := by
    decide +kernel
  have legible : Legible (Task.ofSpec "a" "j" ⟨0, "blur", ∅, []⟩) :=
    Json.read?_render ⟨⟩ ⟨.nil, ⟨⟩⟩ (by decide)
  have listed : ((StoreOp.insert job tasks).apply empty).2.listTasks "j" = .ok tasks := by
    refine listTasks_eq_ok (taskRows_insert sound_empty inserted ?_ ?_) ?_ ?_ ?_
    · simp [tasks, job, Task.ofSpec, Job.create]
    · simp [tasks, Task.ofSpec]
    · simp [tasks, Task.ofSpec, TaskSpec.seqLimit]
    · exact List.forall_mem_cons.2 ⟨legible, List.forall_mem_cons.2 ⟨legible, nofun⟩⟩
    · simp [tasks, Task.ofSpec]
  have metrics : ∀ task ∈ tasks, ∀ m, lastGiven (·.metrics) task.id ops = some m → m.Storable := by
    simp only [tasks, List.forall_mem_cons]
    refine ⟨fun m hm => ?_, fun m hm => ?_, nofun⟩
    · cases hm
      exact ⟨⟨⟨⟩, ⟨⟩⟩, ⟨⟨⟩, ⟨⟩⟩, by decide⟩
    · cases hm
  exact ⟨sound, hops, (updates_replay sound hops).2.2.1 "j" tasks listed metrics⟩

end Store
end ImageryJobs
