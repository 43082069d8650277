import ImageryJobs.Cluster.Manifest.Basic

/-!
Manifests of volume claims and config maps.
-/

namespace ImageryJobs.Manifest

open Json (memberIf)

/-- What a claim asks for; without a class the default of the cluster applies. -/
structure VolumeClaimSpec where
  storageClassName : Option String
  accessModes : List String
  resources : ResourceRequirements
  deriving DecidableEq

namespace VolumeClaimSpec

def schema : Json.Schema VolumeClaimSpec :=
  .record ["storageClassName", "accessModes", "resources"] fun f => do
    return {
      storageClassName := ← f.withDefault "storageClassName" none (.option .string)
      accessModes := ← f.required "accessModes" (.list .string)
      resources := ← f.required "resources" ResourceRequirements.schema }

def toJson (x : VolumeClaimSpec) : Json :=
  .mk <| memberIf "storageClassName" x.storageClassName .string ++
    [("accessModes", .ofList x.accessModes .string)] ++
    [("resources", x.resources.toJson)]

end VolumeClaimSpec

/-- A claim to a volume. -/
structure VolumeClaim where
  apiVersion : String
  kind : String
  metadata : ObjectMeta
  spec : VolumeClaimSpec
  deriving DecidableEq

namespace VolumeClaim

def schema : Json.Schema VolumeClaim :=
  .record ["apiVersion", "kind", "metadata", "spec"] fun f => do
    return {
      apiVersion := ← f.required "apiVersion" .string
      kind := ← f.required "kind" .string
      metadata := ← f.required "metadata" ObjectMeta.schema
      spec := ← f.required "spec" VolumeClaimSpec.schema }

def toJson (x : VolumeClaim) : Json :=
  .mk <| [("apiVersion", .string x.apiVersion)] ++
    [("kind", .string x.kind)] ++
    [("metadata", x.metadata.toJson)] ++
    [("spec", x.spec.toJson)]

end VolumeClaim

/-- Files by name. -/
structure ConfigMap where
  apiVersion : String
  kind : String
  metadata : ObjectMeta
  data : Dict String String
  deriving DecidableEq

namespace ConfigMap

def schema : Json.Schema ConfigMap :=
  .record ["apiVersion", "kind", "metadata", "data"] fun f => do
    return {
      apiVersion := ← f.required "apiVersion" .string
      kind := ← f.required "kind" .string
      metadata := ← f.required "metadata" ObjectMeta.schema
      data := ← f.required "data" (.dict .string) }

def toJson (x : ConfigMap) : Json :=
  .mk <| [("apiVersion", .string x.apiVersion)] ++
    [("kind", .string x.kind)] ++
    [("metadata", x.metadata.toJson)] ++
    [("data", .ofDict x.data .string)]

end ConfigMap

end ImageryJobs.Manifest
