import ImageryJobs.Cluster.Error
import ImageryJobs.Engine.Status
import ImageryJobs.Graph.Error
import ImageryJobs.Store.Error

/-!
Why a call of the service fails.
-/

namespace ImageryJobs

/-- Why a call of the service fails. -/
inductive ServiceError where
  /-- The submitted graph is refused. -/
  | validation (cause : GraphError)
  /-- A task's process has no image. -/
  | missingImage (processId : String)
  | jobNotFound (jobId : String)
  /-- The job's status does not allow the change. -/
  | invalidTransition (jobId : String) (status next : JobStatus)
  | clusterUnavailable (cause : ClusterError)
  | store (cause : StoreError)
  deriving DecidableEq

def ServiceError.message : ServiceError → String
  | .validation cause => s!"Validation failed: {cause.message}"
  | .missingImage processId => s!"No image registered for process '{processId}'"
  | .jobNotFound jobId => s!"Job not found: {jobId}"
  | .invalidTransition jobId status next =>
      s!"Invalid transition for job {jobId}: {status.name} -> {next.name}"
  | .clusterUnavailable cause => s!"Cluster unavailable: {cause.message}"
  | .store cause => s!"Store error: {cause.message}"

/-- The name of the cause. -/
def ServiceError.kind : ServiceError → String
  | .validation _ => "Validation"
  | .missingImage _ => "MissingImage"
  | .jobNotFound _ => "JobNotFound"
  | .invalidTransition .. => "InvalidTransition"
  | .clusterUnavailable _ => "ClusterUnavailable"
  | .store _ => "Store"

end ImageryJobs
