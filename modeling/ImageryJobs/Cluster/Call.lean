import ImageryJobs.Cluster.Naming
import ImageryJobs.Cluster.Request
import ImageryJobs.Script
import ImageryJobs.Time.Duration

/-!
Scripts that talk to a cluster: they send requests, one at a time, and wait. A pause ends early
when the work is cancelled.
-/

namespace ImageryJobs

/-- What a script may ask of a cluster and of the clock. -/
inductive ClusterOp where
  /-- Sends a request and waits for its answer. -/
  | send (request : Request)
  /-- Waits for a span of time or until the work is cancelled, and tells whether it is. -/
  | pause (span : Millis)
  deriving DecidableEq

abbrev ClusterOp.Answer : ClusterOp → Type
  | .send _ => Reply
  | .pause _ => Bool

abbrev clusterInterface : Interface := ⟨ClusterOp, ClusterOp.Answer⟩

/-- A computation that talks to a cluster. -/
abbrev ClusterScript := Script clusterInterface

/-- A computation that talks to a cluster and ends with the first request that fails. -/
abbrev Calling := ExceptT ClusterError ClusterScript

namespace ClusterScript

def send (request : Request) : ClusterScript Reply :=
  Script.perform (I := clusterInterface) (.send request)

def pause (span : Millis) : ClusterScript Bool :=
  Script.perform (I := clusterInterface) (.pause span)

end ClusterScript

namespace Calling

def send (request : Request) : Calling Document := ExceptT.mk (ClusterScript.send request)

/-- A document as JSON. -/
def json (document : Document) : Calling Json := ExceptT.mk (pure document.toJson)

/-- The value of a request that finds nothing for an answer of 404. -/
def orMissing (call : Calling α) (missing : α) : Calling α :=
  ExceptT.mk do
    match ← call.run with
    | .error e => if e.isNotFound then return .ok missing else return .error e
    | .ok value => return .ok value

/-- Creates an object. -/
def create (collection : String) (document : Json) : Calling Unit := do
  let _ ← send (.post collection document)

/-- Removes what stands under a path; it may be gone already. -/
def remove (path : String) : Calling Unit :=
  orMissing (do let _ ← send (.delete path)) ()

/-- The objects of a collection that a selector selects. -/
def list (collection selector : String) : Calling (List Json) := do
  let answer ← send (.get (listPath collection selector))
  let value ← json answer
  return ((value.get? "items").bind Json.items?).getD []

end Calling
end ImageryJobs
