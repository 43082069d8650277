import ImageryJobs.Cluster.Config
import ImageryJobs.Cluster.Manifest.Volume
import ImageryJobs.Cluster.Template.Basic

/-!
A claim to a volume that holds the output of one task. It is ready once it is bound.
-/

namespace ImageryJobs

/-- A claim to a volume. -/
structure VolumeTemplate where
  metadata : Manifest.ObjectMeta
  storageClass : Option String
  size : String
  deriving DecidableEq

namespace VolumeTemplate

def named (name size : String) : VolumeTemplate := ⟨.managed name, none, size⟩

/-- The output claim of a task. -/
def forTask (jobId taskId : String) (config : ClusterConfig) : VolumeTemplate :=
  ⟨.forTask .volume jobId taskId, config.storageClass, config.volumeSize⟩

def manifest (t : VolumeTemplate) : Manifest.VolumeClaim where
  apiVersion := "v1"
  kind := "PersistentVolumeClaim"
  metadata := t.metadata
  spec := {
    storageClassName := t.storageClass
    accessModes := ["ReadWriteOnce"]
    resources := ⟨Dict.ofList [("storage", t.size)], ∅⟩ }

def readiness (claim : Json) : Readiness :=
  match Template.phaseOf claim with
  | some "Bound" => .ready
  | some "Lost" => .failed "claim lost its volume"
  | _ => .pending

def template (t : VolumeTemplate) : Template where
  kind := .volume
  name := t.metadata.name
  document := t.manifest.toJson
  readiness := fun claim _ => readiness claim
  podSelector := none
  shared := false

end VolumeTemplate
end ImageryJobs
