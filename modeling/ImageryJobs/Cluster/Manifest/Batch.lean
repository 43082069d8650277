import ImageryJobs.Cluster.Manifest.Basic

/-!
Manifests of batch jobs and the pods they start.
-/

namespace ImageryJobs.Manifest

open Json (memberIf)

/-- A volume of the pod mounted in a container. -/
structure VolumeMount where
  name : String
  mountPath : String
  readOnly : Bool
  subPath : Option String
  deriving DecidableEq

namespace VolumeMount

def schema : Json.Schema VolumeMount :=
  .record ["name", "mountPath", "readOnly", "subPath"] fun f => do
    return {
      name := ← f.required "name" .string
      mountPath := ← f.required "mountPath" .string
      readOnly := ← f.withDefault "readOnly" false .bool
      subPath := ← f.withDefault "subPath" none (.option .string) }

def toJson (x : VolumeMount) : Json :=
  .mk <| [("name", .string x.name)] ++
    [("mountPath", .string x.mountPath)] ++
    memberIfTrue "readOnly" x.readOnly ++
    memberIf "subPath" x.subPath .string

end VolumeMount

/-- A claim that backs a volume of a pod. -/
structure ClaimSource where
  claimName : String
  readOnly : Bool
  deriving DecidableEq

namespace ClaimSource

def schema : Json.Schema ClaimSource :=
  .record ["claimName", "readOnly"] fun f => do
    return {
      claimName := ← f.required "claimName" .string
      readOnly := ← f.withDefault "readOnly" false .bool }

def toJson (x : ClaimSource) : Json :=
  .mk <| [("claimName", .string x.claimName)] ++
    memberIfTrue "readOnly" x.readOnly

end ClaimSource

/-- A config map that backs a volume of a pod. -/
structure ConfigMapSource where
  name : String
  deriving DecidableEq

namespace ConfigMapSource

def schema : Json.Schema ConfigMapSource :=
  .record ["name"] fun f => do
    return {
      name := ← f.required "name" .string }

def toJson (x : ConfigMapSource) : Json :=
  .mk <| [("name", .string x.name)]

end ConfigMapSource

/-- A volume of a pod. -/
structure PodVolume where
  name : String
  claim : Option ClaimSource
  configMap : Option ConfigMapSource
  deriving DecidableEq

namespace PodVolume

def schema : Json.Schema PodVolume :=
  .record ["name", "persistentVolumeClaim", "configMap"] fun f => do
    return {
      name := ← f.required "name" .string
      claim := ← f.withDefault "persistentVolumeClaim" none (.option ClaimSource.schema)
      configMap := ← f.withDefault "configMap" none (.option ConfigMapSource.schema) }

def toJson (x : PodVolume) : Json :=
  .mk <| [("name", .string x.name)] ++
    memberIf "persistentVolumeClaim" x.claim ClaimSource.toJson ++
    memberIf "configMap" x.configMap ConfigMapSource.toJson

end PodVolume

/-- A container of a pod. -/
structure Container where
  name : String
  image : String
  volumeMounts : List VolumeMount
  resources : ResourceRequirements
  deriving DecidableEq

namespace Container

def schema : Json.Schema Container :=
  .record ["name", "image", "volumeMounts", "resources"] fun f => do
    return {
      name := ← f.required "name" .string
      image := ← f.required "image" .string
      volumeMounts := ← f.withDefault "volumeMounts" [] (.list VolumeMount.schema)
      resources := ← f.required "resources" ResourceRequirements.schema }

def toJson (x : Container) : Json :=
  .mk <| [("name", .string x.name)] ++
    [("image", .string x.image)] ++
    listUnlessEmpty "volumeMounts" x.volumeMounts VolumeMount.toJson ++
    [("resources", x.resources.toJson)]

end Container

/-- The containers of a pod, and the volumes they may mount. -/
structure PodSpec where
  containers : List Container
  volumes : List PodVolume
  restartPolicy : String
  deriving DecidableEq

namespace PodSpec

def schema : Json.Schema PodSpec :=
  .record ["containers", "volumes", "restartPolicy"] fun f => do
    return {
      containers := ← f.required "containers" (.list Container.schema)
      volumes := ← f.withDefault "volumes" [] (.list PodVolume.schema)
      restartPolicy := ← f.required "restartPolicy" .string }

def toJson (x : PodSpec) : Json :=
  .mk <| [("containers", .ofList x.containers Container.toJson)] ++
    listUnlessEmpty "volumes" x.volumes PodVolume.toJson ++
    [("restartPolicy", .string x.restartPolicy)]

end PodSpec

/-- The pods that a batch job starts. -/
structure PodTemplate where
  metadata : Option ObjectMeta
  spec : PodSpec
  deriving DecidableEq

namespace PodTemplate

def schema : Json.Schema PodTemplate :=
  .record ["metadata", "spec"] fun f => do
    return {
      metadata := ← f.withDefault "metadata" none (.option ObjectMeta.schema)
      spec := ← f.required "spec" PodSpec.schema }

def toJson (x : PodTemplate) : Json :=
  .mk <| memberIf "metadata" x.metadata ObjectMeta.toJson ++
    [("spec", x.spec.toJson)]

end PodTemplate

/-- The pods of a batch job and how often it is tried again. -/
structure BatchJobSpec where
  backoffLimit : Option Nat
  template : PodTemplate
  deriving DecidableEq

namespace BatchJobSpec

def schema : Json.Schema BatchJobSpec :=
  .record ["backoffLimit", "template"] fun f => do
    return {
      backoffLimit := ← f.withDefault "backoffLimit" none (.option (.natBelow 4294967296))
      template := ← f.required "template" PodTemplate.schema }

def toJson (x : BatchJobSpec) : Json :=
  .mk <| memberIf "backoffLimit" x.backoffLimit .ofNat ++
    [("template", x.template.toJson)]

end BatchJobSpec

/-- A job that runs pods to completion. -/
structure BatchJob where
  apiVersion : String
  kind : String
  metadata : ObjectMeta
  spec : BatchJobSpec
  deriving DecidableEq

namespace BatchJob

def schema : Json.Schema BatchJob :=
  .record ["apiVersion", "kind", "metadata", "spec"] fun f => do
    return {
      apiVersion := ← f.required "apiVersion" .string
      kind := ← f.required "kind" .string
      metadata := ← f.required "metadata" ObjectMeta.schema
      spec := ← f.required "spec" BatchJobSpec.schema }

def toJson (x : BatchJob) : Json :=
  .mk <| [("apiVersion", .string x.apiVersion)] ++
    [("kind", .string x.kind)] ++
    [("metadata", x.metadata.toJson)] ++
    [("spec", x.spec.toJson)]

end BatchJob

end ImageryJobs.Manifest
