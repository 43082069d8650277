import ImageryJobs.Cluster.Error
import ImageryJobs.Json.Printer
import ImageryJobs.Json.Raw

/-!
Requests to the cluster and their answers.
-/

namespace ImageryJobs

/-- The two services of a cluster. -/
inductive Api where
  | controlPlane
  | metrics
  deriving DecidableEq

def Api.name : Api → String
  | .controlPlane => "control_plane"
  | .metrics => "metrics"

/-- What a request does. -/
inductive Verb where
  | get
  | post
  | delete
  deriving DecidableEq

def Verb.name : Verb → String
  | .get => "GET"
  | .post => "POST"
  | .delete => "DELETE"

/-- A request. The path is relative to the service and may carry a query. -/
structure Request where
  api : Api
  verb : Verb
  path : String
  body : Option Json
  deriving DecidableEq

/-- The body of a successful answer. -/
inductive Document where
  | json (value : Json)
  | text (text : String)
  | empty
  deriving DecidableEq

/-- The answer to a request. -/
abbrev Reply := Except ClusterError Document

namespace Document

/-- The value of a document that is JSON. -/
def asJson? : Document → Option Json
  | .json value => some value
  | _ => none

/-- The document as JSON: a text is read, no body counts as null. -/
def toJson : Document → Except ClusterError Json
  | .json value => .ok value
  | .text t =>
      match Json.read? t with
      | some value => .ok value
      | none => .error (.decode "the text is not JSON")
  | .empty => .ok .null

/-- The document as text. -/
def toText : Document → String
  | .json value => value.render
  | .text t => t
  | .empty => ""

end Document

namespace Request

def get (path : String) : Request := ⟨.controlPlane, .get, path, none⟩
def post (path : String) (body : Json) : Request := ⟨.controlPlane, .post, path, some body⟩
def delete (path : String) : Request := ⟨.controlPlane, .delete, path, none⟩

end Request
end ImageryJobs
