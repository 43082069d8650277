import ImageryJobs.Cluster.Manifest.Basic
import ImageryJobs.Cluster.Naming

/-!
Templates: what a cluster object should be, and how to tell from the object whether it is ready.
-/

namespace ImageryJobs

/-- What a look at an object tells. -/
inductive Readiness where
  /-- Nothing happens yet. -/
  | pending
  | running
  | ready
  | failed (reason : String)
  deriving DecidableEq

/-- A cluster object that should exist. -/
structure Template where
  kind : ResourceKind
  name : String
  /-- The document that creates it. -/
  document : Json
  /-- Judges the object and the first of its pods. -/
  readiness : Json → Option Json → Readiness
  /-- Selects the pods of a kind that runs some. -/
  podSelector : Option String
  /-- Whether others use the same object. An existing one is then taken over. -/
  shared : Bool

namespace Template

/-- A text inside an object. -/
def textAt (j : Json) (path : List String) : Option String := (j.path? path).bind Json.string?

/-- A counter inside an object; 0 where there is none. -/
def countAt (j : Json) (path : List String) : Nat := ((j.path? path).bind Json.nat?).getD 0

/-- The name of an object. -/
def nameOf (object : Json) : Option String := textAt object ["metadata", "name"]

/-- The phase that an object is in. -/
def phaseOf (object : Json) : Option String := textAt object ["status", "phase"]

end Template

namespace Manifest.ObjectMeta

/-- Metadata with the label that every managed object has. -/
def managed (name : String) : ObjectMeta :=
  ⟨name, Dict.ofList [("app.kubernetes.io/managed-by", "eoflow")]⟩

def withLabel (m : ObjectMeta) (key value : String) : ObjectMeta :=
  { m with labels := m.labels.insert key value }

/-- Metadata of an object of a task. -/
def forTask (kind : ResourceKind) (jobId taskId : String) : ObjectMeta :=
  ((managed (objectName kind jobId taskId)).withLabel jobLabel jobId).withLabel taskLabel taskId

end Manifest.ObjectMeta
end ImageryJobs
