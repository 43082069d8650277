import ImageryJobs.Engine.Status
import ImageryJobs.Graph.TaskList
import ImageryJobs.Time.Timestamp

/-!
Records of jobs and tasks, as they are kept and as they are written.
-/

namespace ImageryJobs

/-- A point in time, written as text. -/
def Timestamp.schema : Json.Schema Timestamp := fun depth r =>
  (Json.Schema.string depth r).bind Timestamp.read?

/-- A submitted process graph. -/
structure Job where
  id : String
  userId : String
  processGraph : Json
  /-- The output specification, if the submission has one. -/
  output : Option Json
  status : JobStatus
  /-- Why the job failed. -/
  error : Option String
  deriving DecidableEq

namespace Job

/-- A new job. -/
def create (id userId : String) (processGraph : Json) (output : Option Json) : Job :=
  ⟨id, userId, processGraph, output, .created, none⟩

end Job

/-- One unit of execution of a job. -/
structure Task where
  id : String
  jobId : String
  processId : String
  seqNum : Nat
  status : TaskStatus
  args : Members
  /-- The tasks whose output this task reads. -/
  dependsOn : List Nat
  /-- Why the task failed. -/
  error : Option String
  /-- What the build and the container wrote. -/
  logs : Option String
  /-- Metrics of the batch job by pod. -/
  metrics : Option Json
  deriving DecidableEq

namespace Task

/-- A new task. -/
def ofSpec (id jobId : String) (spec : TaskSpec) : Task where
  id := id
  jobId := jobId
  processId := spec.processId
  seqNum := spec.seqNum
  status := .created
  args := spec.args
  dependsOn := spec.dependsOn
  error := none
  logs := none
  metrics := none

end Task

/-- A change to a task. What is missing stays as it is. -/
structure TaskUpdate where
  status : Option TaskStatus
  error : Option String
  logs : Option String
  metrics : Option Json
  deriving DecidableEq

namespace TaskUpdate

def ofStatus (status : TaskStatus) : TaskUpdate := ⟨some status, none, none, none⟩

end TaskUpdate

/-- A record with the times of its creation and its last change. -/
structure Dated (α : Type) where
  value : α
  createdAt : Timestamp
  updatedAt : Timestamp
  deriving DecidableEq

namespace Dated

def jobSchema : Json.Schema (Dated Job) :=
  .record ["id", "user_id", "process_graph", "output", "status", "error", "created_at",
      "updated_at"] fun f => do
    return {
      value := {
        id := ← f.required "id" .string
        userId := ← f.required "user_id" .string
        processGraph := ← f.required "process_graph" .any
        output := ← f.optional "output" .any
        status := ← f.required "status" JobStatus.schema
        error := ← f.optional "error" .string }
      createdAt := ← f.required "created_at" Timestamp.schema
      updatedAt := ← f.required "updated_at" Timestamp.schema }

def jobJson (d : Dated Job) : Json :=
  .mk [("id", .string d.value.id), ("user_id", .string d.value.userId),
    ("process_graph", d.value.processGraph), ("output", .ofOption d.value.output id),
    ("status", d.value.status.toJson), ("error", .ofOption d.value.error .string),
    ("created_at", .string d.createdAt.text), ("updated_at", .string d.updatedAt.text)]

def taskSchema : Json.Schema (Dated Task) :=
  .record ["id", "job_id", "process_id", "seq_num", "status", "args", "depends_on", "error",
      "logs", "metrics", "created_at", "updated_at"] fun f => do
    return {
      value := {
        id := ← f.required "id" .string
        jobId := ← f.required "job_id" .string
        processId := ← f.required "process_id" .string
        seqNum := ← f.required "seq_num" (.natBelow TaskSpec.seqLimit)
        status := ← f.required "status" TaskStatus.schema
        args := ← f.required "args" (.dict .any)
        dependsOn := ← f.required "depends_on" (.list (.natBelow TaskSpec.seqLimit))
        error := ← f.optional "error" .string
        logs := ← f.optional "logs" .string
        metrics := ← f.optional "metrics" .any }
      createdAt := ← f.required "created_at" Timestamp.schema
      updatedAt := ← f.required "updated_at" Timestamp.schema }

def taskJson (d : Dated Task) : Json :=
  .mk [("id", .string d.value.id), ("job_id", .string d.value.jobId),
    ("process_id", .string d.value.processId), ("seq_num", .ofNat d.value.seqNum),
    ("status", d.value.status.toJson), ("args", .ofMembers d.value.args),
    ("depends_on", .ofList d.value.dependsOn .ofNat),
    ("error", .ofOption d.value.error .string), ("logs", .ofOption d.value.logs .string),
    ("metrics", .ofOption d.value.metrics id),
    ("created_at", .string d.createdAt.text), ("updated_at", .string d.updatedAt.text)]

end Dated
end ImageryJobs
