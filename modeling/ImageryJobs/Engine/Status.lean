import ImageryJobs.Json.Schema

/-!
Statuses of jobs and tasks, and which one may follow which.
-/

namespace ImageryJobs

/-- The status of a job. -/
inductive JobStatus where
  /-- Checked and stored. -/
  | created
  /-- Waiting for its worker. -/
  | queued
  | running
  | canceled
  | finished
  /-- A task failed. -/
  | error
  deriving DecidableEq

namespace JobStatus

def all : List JobStatus := [.created, .queued, .running, .canceled, .finished, .error]

def name : JobStatus → String
  | .created => "created"
  | .queued => "queued"
  | .running => "running"
  | .canceled => "canceled"
  | .finished => "finished"
  | .error => "error"

def ofName? (name : String) : Option JobStatus := all.find? (·.name = name)

def schema : Json.Schema JobStatus := .choice ofName?

def toJson (s : JobStatus) : Json := .string s.name

/-- The statuses from which a job may come to this one. -/
def predecessors : JobStatus → List JobStatus
  | .created => []
  | .queued => [.created]
  | .running => [.queued]
  | .finished | .error => [.running]
  | .canceled => [.queued, .running]

def canBecome (s next : JobStatus) : Bool := next.predecessors.contains s

/-- Whether no other status can follow. -/
def isFinal : JobStatus → Bool
  | .canceled | .finished | .error => true
  | .created | .queued | .running => false

end JobStatus

/-- The status of a task. -/
inductive TaskStatus where
  /-- Stored with its job. -/
  | created
  | queued
  | running
  | finished
  /-- The job was canceled before the task finished. -/
  | canceled
  | error
  deriving DecidableEq

namespace TaskStatus

def all : List TaskStatus := [.created, .queued, .running, .finished, .canceled, .error]

def name : TaskStatus → String
  | .created => "created"
  | .queued => "queued"
  | .running => "running"
  | .finished => "finished"
  | .canceled => "canceled"
  | .error => "error"

def ofName? (name : String) : Option TaskStatus := all.find? (·.name = name)

def schema : Json.Schema TaskStatus := .choice ofName?

def toJson (s : TaskStatus) : Json := .string s.name

/-- Whether the task may still change its status. -/
def isPending : TaskStatus → Bool
  | .created | .queued | .running => true
  | .finished | .canceled | .error => false

end TaskStatus
end ImageryJobs
