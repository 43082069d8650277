import ImageryJobs.Cluster.Error
import ImageryJobs.Engine.Arena

/-!
Why a run of a job stops.
-/

namespace ImageryJobs

/-- Why a run of a job stops. -/
inductive EngineError where
  /-- An object of the task failed. The logs are those of its build or batch job. -/
  | taskFailed (seqNum : Nat) (processId : String) (cause : LifecycleError)
      (logs : Option String)
  /-- The job was cancelled before the task finished. -/
  | cancelled (seqNum : Nat) (processId : String)
  /-- The catalog has no image for a process. -/
  | unknownImage (processId : String)
  | volume (cause : VolumeError)
  /-- The progress of a task could not be recorded. -/
  | observer (detail : String)
  deriving DecidableEq

namespace EngineError

def message : EngineError → String
  | .taskFailed seqNum processId cause _ => s!"Task {seqNum} ({processId}) failed: {cause.message}"
  | .cancelled seqNum processId => s!"Task {seqNum} ({processId}) canceled"
  | .unknownImage processId => s!"No image registered for process '{processId}'"
  | .volume cause => s!"Volume error: {cause.message}"
  | .observer detail => s!"Observer error: {detail}"

def isCancelled : EngineError → Bool
  | .cancelled .. => true
  | _ => false

/-- The failed request behind the error. -/
def clusterError? : EngineError → Option ClusterError
  | .taskFailed _ _ cause _ => cause.clusterError?
  | _ => none

/-- The logs of the build or batch job that failed. -/
def logs? : EngineError → Option String
  | .taskFailed _ _ _ logs => logs
  | _ => none

/-- The name of the cause. -/
def kind : EngineError → String
  | .taskFailed .. => "TaskFailed"
  | .cancelled .. => "Cancelled"
  | .unknownImage _ => "UnknownImage"
  | .volume _ => "Volume"
  | .observer _ => "Observer"

/-- The name of the cause behind the cause. -/
def causeKind? : EngineError → Option String
  | .taskFailed _ _ cause _ => some cause.kind
  | .volume cause => some cause.kind
  | _ => none

end EngineError
end ImageryJobs
