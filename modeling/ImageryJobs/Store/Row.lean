import ImageryJobs.Engine.Record
import ImageryJobs.Json.Printer
import ImageryJobs.Store.Error
import ImageryJobs.Store.NumericCell

/-!
Rows: records as a table holds them, with JSON as compact text and statuses by name. A row is read
column by column, and the first column that cannot be read is reported.
-/

namespace ImageryJobs

/-- A job as stored. -/
structure JobRow where
  id : String
  userId : String
  processGraph : String
  output : Option String
  status : String
  error : Option String
  /-- Whether the columns for the times of creation and of the last change hold times. -/
  hasCreationTime : Bool
  hasChangeTime : Bool
  deriving DecidableEq

/-- A task as stored. -/
structure TaskRow where
  id : String
  jobId : String
  processId : String
  seqNum : NumericCell
  status : String
  args : String
  dependsOn : String
  error : Option String
  logs : Option String
  metrics : Option String
  /-- Whether the columns for the times of creation and of the last change hold times. -/
  hasCreationTime : Bool
  hasChangeTime : Bool
  deriving DecidableEq

namespace Row

/-- A column holds a value of another kind. -/
def irregular : StoreError := .database "a column holds a value of another kind"

/-- Reads a column that holds JSON. -/
def column (id name : String) (s : Json.Schema α) (text : String) : Except StoreError α :=
  match s.read? text with
  | some value => .ok value
  | none => .error (.corrupt id s!"{name}: not readable")

/-- Reads a column that may be null. -/
def optionalColumn (id name : String) (s : Json.Schema α) :
    Option String → Except StoreError (Option α)
  | none => .ok none
  | some text => (column id name s text).map some

/-- Reads a column by a table of names. -/
def named (id name : String) : Option α → Except StoreError α
  | some value => .ok value
  | none => .error (.corrupt id s!"invalid {name}")

end Row

namespace JobRow

def ofJob (job : Job) : JobRow where
  id := job.id
  userId := job.userId
  processGraph := job.processGraph.render
  output := job.output.map Json.render
  status := job.status.name
  error := job.error
  hasCreationTime := true
  hasChangeTime := true

/-- Whether every column holds a value of its kind. The database gives no other rows. -/
def isRegular (row : JobRow) : Bool := row.hasCreationTime && row.hasChangeTime

def toJob (row : JobRow) : Except StoreError Job := do
  if !row.isRegular then throw Row.irregular
  let processGraph ← Row.column row.id "process_graph" .any row.processGraph
  let output ← Row.optionalColumn row.id "output" .any row.output
  let status ← Row.named row.id "status" (JobStatus.ofName? row.status)
  return ⟨row.id, row.userId, processGraph, output, status, row.error⟩

end JobRow

namespace TaskRow

def ofTask (task : Task) : TaskRow where
  id := task.id
  jobId := task.jobId
  processId := task.processId
  seqNum := .integer task.seqNum
  status := task.status.name
  args := (Json.ofMembers task.args).render
  dependsOn := (Json.ofList task.dependsOn .ofNat).render
  error := task.error
  logs := task.logs
  metrics := task.metrics.map Json.render
  hasCreationTime := true
  hasChangeTime := true

/-- Whether every column holds a value of its kind. The database gives no other rows. -/
def isRegular (row : TaskRow) : Bool :=
  row.seqNum.integer?.isSome && row.hasCreationTime && row.hasChangeTime

/-- The number of a task, if it is in range. -/
def seqNum? (row : TaskRow) : Option Nat :=
  row.seqNum.integer?.bind fun n => if 0 ≤ n ∧ n < TaskSpec.seqLimit then some n.toNat else none

def toTask (row : TaskRow) : Except StoreError Task := do
  let seqNum ← Row.named row.id "seq_num" row.seqNum?
  let status ← Row.named row.id "status" (TaskStatus.ofName? row.status)
  let args ← Row.column row.id "args" (.dict .any) row.args
  let dependsOn ← Row.column row.id "depends_on" (.list (.natBelow TaskSpec.seqLimit))
    row.dependsOn
  let metrics ← Row.optionalColumn row.id "metrics" .any row.metrics
  return ⟨row.id, row.jobId, row.processId, seqNum, status, args, dependsOn, row.error, row.logs,
    metrics⟩

/-- Whether the task may still change its status. -/
def isPending (row : TaskRow) : Bool :=
  row.status = TaskStatus.created.name || row.status = TaskStatus.queued.name ||
    row.status = TaskStatus.running.name

end TaskRow
end ImageryJobs
