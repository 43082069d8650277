import ImageryJobs.Cluster.Manifest.Batch
import ImageryJobs.Cluster.Template.Basic

/-!
A batch job: one container that runs a task to completion, with its mounts and resources.
-/

namespace ImageryJobs

/-- What backs a mount. -/
inductive MountSource where
  /-- A claim to a volume, by name. -/
  | claim (name : String)
  /-- A config map, by name. -/
  | configMap (name : String)
  deriving DecidableEq

def MountSource.name : MountSource → String
  | .claim name => name
  | .configMap name => name

/-- A mount of a task's container. -/
structure Mount where
  source : MountSource
  path : String
  readOnly : Bool
  /-- The part of the source that is mounted. -/
  subPath : Option String
  deriving DecidableEq

namespace Mount

def claim (name path : String) : Mount := ⟨.claim name, path, false, none⟩
def configMap (name path : String) : Mount := ⟨.configMap name, path, true, none⟩
def asReadOnly (m : Mount) : Mount := { m with readOnly := true }
def withSubPath (m : Mount) (subPath : String) : Mount := { m with subPath := some subPath }

end Mount

/-- Requests and limits of a container. -/
structure ComputeResources where
  cpuRequest : String
  cpuLimit : String
  memoryRequest : String
  memoryLimit : String
  deriving DecidableEq

namespace ComputeResources

def initial : ComputeResources := ⟨"500m", "1", "1Gi", "2Gi"⟩

def schema : Json.Schema ComputeResources :=
  .record ["cpu_request", "cpu_limit", "memory_request", "memory_limit"] fun f => do
    return {
      cpuRequest := ← f.required "cpu_request" .string
      cpuLimit := ← f.required "cpu_limit" .string
      memoryRequest := ← f.required "memory_request" .string
      memoryLimit := ← f.required "memory_limit" .string }

def toJson (r : ComputeResources) : Json :=
  .mk [("cpu_request", .string r.cpuRequest), ("cpu_limit", .string r.cpuLimit),
    ("memory_request", .string r.memoryRequest), ("memory_limit", .string r.memoryLimit)]

def requirements (r : ComputeResources) : Manifest.ResourceRequirements where
  requests := Dict.ofList [("cpu", r.cpuRequest), ("memory", r.memoryRequest)]
  limits := Dict.ofList [("cpu", r.cpuLimit), ("memory", r.memoryLimit)]

end ComputeResources

/-- A batch job that runs one container. -/
structure BatchTemplate where
  metadata : Manifest.ObjectMeta
  container : String
  image : String
  mounts : List Mount
  resources : ComputeResources
  deriving DecidableEq

namespace BatchTemplate

def forTask (jobId taskId processId image : String) (mounts : List Mount)
    (resources : ComputeResources) : BatchTemplate where
  metadata := (Manifest.ObjectMeta.forTask .batchJob jobId taskId).withLabel processLabel
    (sanitizeName processId)
  container := sanitizeName processId
  image := image
  mounts := mounts
  resources := resources

def name (t : BatchTemplate) : String := t.metadata.name

/-- How often a failed pod is tried again. -/
def backoffLimit : Nat := 2

/-- The volume of the pod for a mount. -/
def podVolume (m : Mount) : Manifest.PodVolume :=
  match m.source with
  | .claim name => ⟨name, some ⟨name, m.readOnly⟩, none⟩
  | .configMap name => ⟨name, none, some ⟨name⟩⟩

/-- The volumes of the pod: one for each name, as the first mount of that name has it. -/
def podVolumes (mounts : List Mount) : List Manifest.PodVolume :=
  mounts.foldl (fun volumes m =>
    if volumes.any (·.name = m.source.name) then volumes else volumes ++ [podVolume m]) []

def volumeMount (m : Mount) : Manifest.VolumeMount :=
  ⟨m.source.name, m.path, m.readOnly, m.subPath⟩

def manifest (t : BatchTemplate) : Manifest.BatchJob where
  apiVersion := "batch/v1"
  kind := "Job"
  metadata := t.metadata
  spec := {
    backoffLimit := some backoffLimit
    template := {
      metadata := some t.metadata
      spec := {
        containers :=
          [⟨t.container, t.image, t.mounts.map volumeMount, t.resources.requirements⟩]
        volumes := podVolumes t.mounts
        restartPolicy := "OnFailure" } } }

/-- Why a batch job failed. -/
def failureReason (job : Json) : String :=
  let conditions := ((job.path? ["status", "conditions"]).bind Json.items?).getD []
  let failure := conditions.find? fun c => Template.textAt c ["type"] = some "Failed"
  let told := failure.bind fun c =>
    (Template.textAt c ["message"]).or (Template.textAt c ["reason"])
  told.getD "job pod failed"

def readiness (job : Json) : Readiness :=
  if 0 < Template.countAt job ["status", "succeeded"] then .ready
  else if 0 < Template.countAt job ["status", "failed"] then .failed (failureReason job)
  else if 0 < Template.countAt job ["status", "active"] then .running
  else .pending

def template (t : BatchTemplate) : Template where
  kind := .batchJob
  name := t.name
  document := t.manifest.toJson
  readiness := fun job _ => readiness job
  podSelector := some (selectorOf batchPodLabel t.name)
  shared := false

end BatchTemplate
end ImageryJobs
