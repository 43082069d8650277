import ImageryJobs.Store.Row

/-!
The store of jobs and tasks. A job is inserted with all its tasks or not at all; a job's status
changes only along its transitions, and a task's only while the task is pending. Every operation
is one atomic step.
-/

namespace ImageryJobs

/-- Jobs and tasks by their ids. -/
structure Store where
  jobs : Dict String JobRow
  tasks : Dict String TaskRow
  deriving DecidableEq

namespace Store

def empty : Store := ⟨∅, ∅⟩

instance : Inhabited Store := ⟨empty⟩

/-- Whether a task of a job has a number already. -/
def hasNumber (s : Store) (jobId : String) (seqNum : NumericCell) : Bool :=
  s.tasks.values.any fun row => row.jobId = jobId && row.seqNum = seqNum

def refused (what : String) : StoreError := .database s!"constraint failed: {what}"

def insertTask (s : Store) (task : Task) : Except StoreError Store :=
  if s.tasks.contains task.id then .error (refused "tasks.id")
  else if s.hasNumber task.jobId (.integer task.seqNum) then
    .error (refused "tasks.job_id, tasks.seq_num")
  else if !s.jobs.contains task.jobId then .error (refused "jobs.id")
  else .ok { s with tasks := s.tasks.insert task.id (.ofTask task) }

/-- Inserts a job and its tasks: all, or none and an error. -/
def insert (s : Store) (job : Job) (tasks : List Task) : Except StoreError Store :=
  if s.jobs.contains job.id then .error (refused "jobs.id")
  else tasks.foldlM insertTask { s with jobs := s.jobs.insert job.id (.ofJob job) }

def getJob (s : Store) (jobId : String) : Except StoreError (Option Job) :=
  match s.jobs.get? jobId with
  | none => .ok none
  | some row => row.toJob.map some

/-- The rows of a job's tasks in the order of their numbers. -/
def taskRows (s : Store) (jobId : String) : List TaskRow :=
  (s.tasks.values.filter (·.jobId = jobId)).mergeSort fun a b =>
    a.seqNum.integer?.getD 0 ≤ b.seqNum.integer?.getD 0

/-- The tasks of a job in the order of their numbers. The database gives no rows at all if one of
them is irregular. -/
def listTasks (s : Store) (jobId : String) : Except StoreError (List Task) :=
  let rows := s.taskRows jobId
  if rows.all (·.isRegular) then rows.mapM TaskRow.toTask else .error Row.irregular

/-- Whether a job may change to a status now. -/
def admits (row : JobRow) (status : JobStatus) : Bool :=
  (status.predecessors.map JobStatus.name).contains row.status

/-- A row after a change of status. -/
def moved (row : JobRow) (status : JobStatus) (error : Option String) : JobRow :=
  { row with status := status.name, error := error.or row.error, hasChangeTime := true }

/-- Changes the status of a job if its transitions allow that, and tells whether it did. An error
text takes the place of an earlier one. -/
def transition (s : Store) (jobId : String) (status : JobStatus) (error : Option String) :
    Bool × Store :=
  match s.jobs.get? jobId with
  | none => (false, s)
  | some row =>
      if admits row status then
        (true, { s with jobs := s.jobs.insert jobId (moved row status error) })
      else (false, s)

/-- A row after an update. -/
def updated (row : TaskRow) (update : TaskUpdate) : TaskRow :=
  { row with
    status := if row.isPending then (update.status.map TaskStatus.name).getD row.status
      else row.status
    error := update.error.or row.error
    logs := update.logs.or row.logs
    metrics := (update.metrics.map Json.render).or row.metrics
    hasChangeTime := true }

/-- Applies an update to a task. The status changes only while the task is pending. -/
def updateTask (s : Store) (taskId : String) (update : TaskUpdate) : Store :=
  match s.tasks.get? taskId with
  | none => s
  | some row => { s with tasks := s.tasks.insert taskId (updated row update) }

/-- Whether a row is a pending task of a job. -/
def isPendingOf (jobId : String) (row : TaskRow) : Bool := row.jobId = jobId && row.isPending

/-- A row after its cancellation. -/
def canceled (row : TaskRow) : TaskRow :=
  { row with status := TaskStatus.canceled.name, hasChangeTime := true }

/-- Cancels the pending tasks of a job, and tells how many there were. -/
def cancelPending (s : Store) (jobId : String) : Nat × Store :=
  ((s.tasks.values.filter (isPendingOf jobId)).length,
    { s with tasks := s.tasks.map fun _ row =>
        if isPendingOf jobId row then canceled row else row })

end Store

/-- An operation on a store. -/
inductive StoreOp where
  | insert (job : Job) (tasks : List Task)
  | getJob (jobId : String)
  | listTasks (jobId : String)
  | transition (jobId : String) (status : JobStatus) (error : Option String)
  | updateTask (taskId : String) (update : TaskUpdate)
  | cancelPending (jobId : String)
  | health
  deriving DecidableEq

namespace StoreOp

/-- What an operation gives when it succeeds. -/
abbrev Answer : StoreOp → Type
  | .insert _ _ => Unit
  | .getJob _ => Option Job
  | .listTasks _ => List Task
  | .transition _ _ _ => Bool
  | .updateTask _ _ => Unit
  | .cancelPending _ => Nat
  | .health => Unit

/-- Carries an operation out. -/
def apply : (op : StoreOp) → Store → Except StoreError op.Answer × Store
  | .insert job tasks, s =>
      match s.insert job tasks with
      | .ok s' => (.ok (), s')
      | .error e => (.error e, s)
  | .getJob jobId, s => (s.getJob jobId, s)
  | .listTasks jobId, s => (s.listTasks jobId, s)
  | .transition jobId status error, s =>
      let (changed, s) := s.transition jobId status error
      (.ok changed, s)
  | .updateTask taskId update, s => (.ok (), s.updateTask taskId update)
  | .cancelPending jobId, s =>
      let (count, s) := s.cancelPending jobId
      (.ok count, s)
  | .health, s => (.ok (), s)

/-- What an operation gives when the store cannot be reached: an error, but a change to a status
that nothing precedes is refused without the store. -/
def unreachable (op : StoreOp) : Except StoreError op.Answer :=
  match op with
  | .transition _ status _ =>
      if status.predecessors = [] then .ok false else .error .unreachable
  | .insert _ _ | .getJob _ | .listTasks _ | .updateTask _ _ | .cancelPending _ | .health =>
      .error .unreachable

/-- What an operation gives on a store that cannot be written. What writes is refused, also where
it would change nothing. -/
def applyReadOnly : (op : StoreOp) → Store → Except StoreError op.Answer
  | .getJob jobId, s => s.getJob jobId
  | .listTasks jobId, s => s.listTasks jobId
  | .health, _ => .ok ()
  | .transition _ status _, _ =>
      if status.predecessors = [] then .ok false else .error .readOnly
  | .insert _ _, _ | .updateTask _ _, _ | .cancelPending _, _ => .error .readOnly

end StoreOp
end ImageryJobs
