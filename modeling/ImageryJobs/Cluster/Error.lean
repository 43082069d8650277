import ImageryJobs.Cluster.Kind
import ImageryJobs.Time.Duration

/-!
What can go wrong with a request to the cluster and with the life of an object.
-/

namespace ImageryJobs

/-- Why a request failed. -/
inductive ClusterError where
  /-- The cluster answered with a status that is no success. -/
  | api (code : Nat) (body : String)
  /-- The request could not be sent, or the connection broke. -/
  | transport (detail : String)
  | timeout (detail : String)
  /-- The answer could not be read. -/
  | decode (detail : String)
  deriving DecidableEq

namespace ClusterError

def message : ClusterError → String
  | .api code body => s!"Cluster API returned {code}: {body}"
  | .transport detail => s!"Cluster transport error: {detail}"
  | .timeout detail => s!"Cluster request timed out: {detail}"
  | .decode detail => s!"Failed to decode cluster response: {detail}"

def statusCode? : ClusterError → Option Nat
  | .api code _ => some code
  | _ => none

/-- The object exists already. -/
def isConflict (e : ClusterError) : Bool := e.statusCode? = some 409

/-- The object does not exist. -/
def isNotFound (e : ClusterError) : Bool := e.statusCode? = some 404

/-- The cluster could not be reached or failed on its own. -/
def isUnavailable : ClusterError → Bool
  | .api code _ => 500 ≤ code
  | .transport _ | .timeout _ => true
  | .decode _ => false

end ClusterError

/-- Why an object could not be brought to where it should be. -/
inductive LifecycleError where
  /-- The name was taken again after the old object was removed. -/
  | conflict (kind : ResourceKind) (name : String)
  /-- The object reached a state of failure. -/
  | failed (kind : ResourceKind) (name reason : String)
  /-- The deadline passed. -/
  | watchTimeout (kind : ResourceKind) (name : String) (timeout : Millis)
  | cancelled (kind : ResourceKind) (name : String)
  /-- An object that is ready lacks a field that is needed. -/
  | missingField (kind : ResourceKind) (name field : String)
  /-- A request failed. -/
  | cluster (error : ClusterError)
  deriving DecidableEq

namespace LifecycleError

def message : LifecycleError → String
  | .conflict kind name => s!"{kind.name} '{name}' still conflicts after delete and recreate"
  | .failed kind name reason => s!"{kind.name} '{name}' failed: {reason}"
  | .watchTimeout kind name timeout => s!"{kind.name} '{name}' not ready after {timeout.text}"
  | .cancelled kind name => s!"Watching {kind.name} '{name}' was cancelled"
  | .missingField kind name field => s!"{kind.name} '{name}' has no '{field}'"
  | .cluster error => error.message

def isCancelled : LifecycleError → Bool
  | .cancelled _ _ => true
  | _ => false

def clusterError? : LifecycleError → Option ClusterError
  | .cluster error => some error
  | _ => none

end LifecycleError

/-- The name of the cause. -/
def ClusterError.kind : ClusterError → String
  | .api .. => "Api"
  | .transport _ => "Transport"
  | .timeout _ => "Timeout"
  | .decode _ => "Decode"

/-- The name of the cause. -/
def LifecycleError.kind : LifecycleError → String
  | .conflict .. => "Conflict"
  | .failed .. => "Failed"
  | .watchTimeout .. => "WatchTimeout"
  | .cancelled .. => "Cancelled"
  | .missingField .. => "MissingField"
  | .cluster _ => "Cluster"

end ImageryJobs
