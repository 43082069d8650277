import ImageryJobs.Proofs.Cluster.Names
import ImageryJobs.Proofs.Failing

/-!
What the documents of a task's objects say to a reader: the task that they belong to, the files of
a config map and the mounts of a batch job's container.
-/

namespace ImageryJobs

theorem Manifest.PodSpec.get?_containers (spec : PodSpec) :
    spec.toJson.get? "containers" = some (.ofList spec.containers Container.toJson) := by
  rw [toJson, Json.get?_mk, listUnlessEmpty]
  split <;> simp [Dict.ofList]

namespace Template

/-- The task that an object belongs to, by its label. -/
def taskOf (object : Json) : Option String := textAt object ["metadata", "labels", taskLabel]

/-- A file of a config map. -/
def fileIn (config : Json) (file : String) : Option String := textAt config ["data", file]

/-- A mount of a container. -/
def mountIn (mount : Json) : Option Manifest.VolumeMount := do
  let name ← textAt mount ["name"]
  let path ← textAt mount ["mountPath"]
  return ⟨name, path, mount.get? "readOnly" = some (.bool true), textAt mount ["subPath"]⟩

/-- The mounts of the one container of a batch job, in order. -/
def mountsIn (job : Json) : Option (List Manifest.VolumeMount) := do
  let containers ← (job.path? ["spec", "template", "spec", "containers"]).bind Json.items?
  match containers with
  | [container] => ((container.get? "volumeMounts").bind Json.items?).bind (·.mapM mountIn)
  | _ => none

theorem taskOf_eq {object : Json} {task : String} (m : Manifest.ObjectMeta)
    (metadata : object.get? "metadata" = some m.toJson)
    (label : m.labels.get? taskLabel = some task) : taskOf object = some task := by
  have given : m.labels.isEmpty = false := by
    cases hl : m.labels.entries with
    | nil => simp [Dict.get?, Dict.lookup, hl] at label
    | cons _ _ => simp [Dict.isEmpty, hl]
  have labels : m.toJson.get? "labels" = some (.ofDict m.labels .string) := by
    simp [Manifest.ObjectMeta.toJson, Manifest.memberUnlessEmpty, given, Json.get?_mk, Dict.ofList]
  have text : (Json.ofDict m.labels .string).get? taskLabel = some (.string task) := by
    simp [Json.ofDict, Json.get?, label]
  simp [taskOf, textAt, Json.path?, metadata, labels, text, Json.string?]

theorem mountIn_toJson (mount : Manifest.VolumeMount) : mountIn mount.toJson = some mount := by
  obtain ⟨name, path, readOnly, subPath⟩ := mount
  cases readOnly <;> cases subPath <;>
    simp [mountIn, textAt, Json.path?, Manifest.VolumeMount.toJson, Manifest.memberIfTrue,
      Json.memberIf, Json.get?_mk, Dict.ofList, Json.string?]

end Template

open Template

theorem ConfigTemplate.taskOf_forTask (jobId taskId : String) (args : Members)
    (inputs : List String) :
    taskOf (forTask jobId taskId args inputs).template.document = some taskId := by
  refine taskOf_eq (forTask jobId taskId args inputs).metadata ?_ ?_
  · simp [template, manifest, Manifest.ConfigMap.toJson, Json.get?_mk, Dict.ofList]
  · simp [forTask, Manifest.ObjectMeta.forTask, Manifest.ObjectMeta.withLabel]

theorem ConfigTemplate.fileIn_document {t : ConfigTemplate} {file text : String}
    (h : t.data.get? file = some text) : fileIn t.template.document file = some text := by
  have data : t.template.document.get? "data" = some (.ofDict t.data .string) := by
    simp [template, manifest, Manifest.ConfigMap.toJson, Json.get?_mk, Dict.ofList]
  have found : (Json.ofDict t.data .string).get? file = some (.string text) := by
    simp [Json.ofDict, Json.get?, h]
  simp [fileIn, textAt, Json.path?, data, found, Json.string?]

theorem BatchTemplate.taskOf_forTask (jobId taskId processId image : String) (mounts : List Mount)
    (resources : ComputeResources) :
    taskOf (forTask jobId taskId processId image mounts resources).template.document =
      some taskId := by
  refine taskOf_eq (forTask jobId taskId processId image mounts resources).metadata ?_ ?_
  · simp [template, manifest, Manifest.BatchJob.toJson, Json.get?_mk, Dict.ofList]
  · simp [forTask, Manifest.ObjectMeta.forTask, Manifest.ObjectMeta.withLabel, taskLabel, processLabel]

theorem BatchTemplate.mountsIn_document {t : BatchTemplate} (h : t.mounts ≠ []) :
    mountsIn t.template.document = some (t.mounts.map volumeMount) := by
  let mounts := t.mounts.map volumeMount
  let container : Manifest.Container := ⟨t.container, t.image, mounts, t.resources.requirements⟩
  have containers : t.template.document.path? ["spec", "template", "spec", "containers"] =
      some (.array [container.toJson]) := by
    simp [template, manifest, Manifest.BatchJob.toJson, Manifest.BatchJobSpec.toJson,
      Manifest.PodTemplate.toJson, Manifest.PodSpec.get?_containers, Json.path?, Json.get?_mk,
      Dict.ofList, Json.ofList, Json.memberIf, container, mounts]
  have given : mounts.isEmpty = false := by simpa [mounts] using h
  have items : container.toJson.get? "volumeMounts" =
      some (.array (mounts.map Manifest.VolumeMount.toJson)) := by
    simp [Manifest.Container.toJson, Manifest.listUnlessEmpty, container, given, Json.get?_mk,
      Dict.ofList, Json.ofList]
  rw [mountsIn, containers]
  change ((container.toJson.get? "volumeMounts").bind Json.items?).bind (·.mapM mountIn) = _
  rw [items]
  exact mapM_map fun mount _ => mountIn_toJson mount

end ImageryJobs
