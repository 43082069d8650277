import ImageryJobs.Cluster.Template.Batch
import ImageryJobs.Cluster.Template.Image

/-!
The image catalog: from which source the image of each process is built, and what its container
may use.
-/

namespace ImageryJobs

/-- Source and resources of the image of a process. -/
structure ImageSpec where
  source : BuildSource
  /-- The defaults of the catalog apply where this is missing. -/
  resources : Option ComputeResources
  deriving DecidableEq

namespace ImageSpec

/-- A specification is an object in which the source stands beside the resources. All members
must be readable, known or not. -/
def schema : Json.Schema ImageSpec := fun depth r =>
  match depth, r with
  | depth + 1, .object members => do
      let resources ← match ← Json.Schema.uniqueMember members "resources" with
        | .given tree => Json.Schema.option ComputeResources.schema depth tree
        | _ => some none
      let others := members.filter (·.1 ≠ some "resources")
      let _ ← others.mapM fun m => do
        let key ← m.1
        let value ← Json.Schema.any depth m.2
        return (key, value)
      let source ← BuildSource.schema (depth + 1) (.object others)
      return ⟨source, resources⟩
  | _, _ => none

def toJson (s : ImageSpec) : Json :=
  .mk (s.source.members ++ Json.memberIf "resources" s.resources ComputeResources.toJson)

end ImageSpec

/-- Images of processes. -/
structure ImageCatalog where
  defaultResources : ComputeResources
  processes : Dict String ImageSpec
  deriving DecidableEq

/-- Why a catalog cannot be loaded. -/
inductive CatalogError where
  | unreadable
  | malformed
  deriving DecidableEq

namespace ImageCatalog

def schema : Json.Schema ImageCatalog :=
  .record ["default_resources", "processes"] fun f => do
    return {
      defaultResources := ←
        f.withDefault "default_resources" ComputeResources.initial ComputeResources.schema
      processes := ← f.withDefault "processes" ∅ (.dict ImageSpec.schema) }

def toJson (c : ImageCatalog) : Json :=
  .mk [("default_resources", c.defaultResources.toJson),
    ("processes", .ofDict c.processes ImageSpec.toJson)]

/-- Reads a catalog from the text of its document. -/
def read (text : String) : Except CatalogError ImageCatalog :=
  match schema.read? text with
  | some catalog => .ok catalog
  | none => .error .malformed

/-- A catalog without processes. -/
def ofResources (defaultResources : ComputeResources) : ImageCatalog := ⟨defaultResources, ∅⟩

def withProcess (c : ImageCatalog) (processId : String) (spec : ImageSpec) : ImageCatalog :=
  { c with processes := c.processes.insert processId spec }

/-- The repository that holds the images of the builtin processes, one directory each. -/
def defaultRepository : String := "https://git.eoflow.local/eoflow/processes.git"

/-- The processes with builtin images. -/
def builtinProcesses : List String :=
  ["filter-s1", "filter-s2", "NDVI", "min_time", "max_time", "mean_time", "convert"]

def builtin : ImageCatalog :=
  builtinProcesses.foldl (fun c processId =>
    c.withProcess processId
      ⟨⟨defaultRepository, BuildSource.defaultRef, some processId⟩, none⟩)
    (ofResources ComputeResources.initial)

def get? (c : ImageCatalog) (processId : String) : Option ImageSpec := c.processes.get? processId

def contains (c : ImageCatalog) (processId : String) : Bool := c.processes.contains processId

/-- The resources of a process. -/
def resourcesFor (c : ImageCatalog) (processId : String) : ComputeResources :=
  ((c.get? processId).bind (·.resources)).getD c.defaultResources

end ImageCatalog

/-- The name of the cause. -/
def CatalogError.kind : CatalogError → String
  | .unreadable => "Io"
  | .malformed => "Json"

end ImageryJobs
