import ImageryJobs.Graph.Process

/-!
Registries: the processes and products that a graph may name, and for each product the process
that extracts it.
-/

namespace ImageryJobs

/-- The declaration of a product, a collection of satellite data. -/
structure ProductSpec where
  productId : String
  description : String
  deriving DecidableEq

namespace ProductSpec

def schema : Json.Schema ProductSpec :=
  .record ["product_id", "description"] fun f => do
    return {
      productId := ← f.required "product_id" .string
      description := ← f.withDefault "description" "" .string }

def toJson (p : ProductSpec) : Json :=
  .mk [("product_id", .string p.productId), ("description", .string p.description)]

end ProductSpec

/-- For each product the process that extracts it. -/
structure FilterMapping where
  extraction : Dict String String
  deriving DecidableEq

namespace FilterMapping

def schema : Json.Schema FilterMapping := fun depth r => (Json.Schema.dict .string depth r).map mk

def toJson (m : FilterMapping) : Json := .ofDict m.extraction .string

def builtin : FilterMapping :=
  ⟨Dict.ofList [("s2a_prd_msil1c", "filter-s2"), ("s1a_csar_grdh_iw", "filter-s1")]⟩

end FilterMapping

/-- Why a registry cannot be built. -/
inductive RegistryError where
  /-- The pattern of an argument is no pattern. -/
  | invalidPattern (processId argument : String)
  /-- The document has another form. -/
  | malformed
  /-- There is no such file. -/
  | unreadable
  deriving DecidableEq

/-- What graphs are compiled against. -/
structure Registries where
  processes : Dict String Process
  products : Dict String ProductSpec
  mapping : FilterMapping

namespace Registries

/-- Registers declarations in order; of two with one id the later stands. -/
def processesOf (specs : List ProcessSpec) : Except RegistryError (Dict String Process) :=
  specs.foldlM (fun d spec =>
    match Process.ofSpec spec with
    | .ok process => .ok (d.insert spec.processId process)
    | .error argument => .error (.invalidPattern spec.processId argument)) ∅

def productsOf (specs : List ProductSpec) : Dict String ProductSpec :=
  Dict.ofList (specs.map fun spec => (spec.productId, spec))

/-- Reads a registry of processes from the text of its document. -/
def readProcesses (text : String) : Except RegistryError (Dict String Process) :=
  match (Json.Schema.list ProcessSpec.schema).read? text with
  | some specs => processesOf specs
  | none => .error .malformed

/-- Reads a registry of products from the text of its document. -/
def readProducts (text : String) : Except RegistryError (Dict String ProductSpec) :=
  match (Json.Schema.list ProductSpec.schema).read? text with
  | some specs => .ok (productsOf specs)
  | none => .error .malformed

/-- Reads a mapping from the text of its document. -/
def readMapping (text : String) : Except RegistryError FilterMapping :=
  match FilterMapping.schema.read? text with
  | some mapping => .ok mapping
  | none => .error .malformed

/-- The input of a node. -/
private def imagery : String × Parameter := ("imagery", .ofType .imagery true)

/-- A date with an optional time of day. -/
private def datePattern : String :=
  "^\\d\x7b4\x7d-\\d\x7b2\x7d-\\d\x7b2\x7d([T ]\\d\x7b2\x7d:\\d\x7b2\x7d(:\\d\x7b2\x7d)?)?$"

/-- The name of a spectral band. -/
private def bandPattern : String := "^B\\d\x7b1,2\x7dA?$"

/-- The processes that every installation supports. -/
def builtinSpecs : List ProcessSpec :=
  [⟨"get_collection", .filter, "Select a product as data source",
      Dict.ofList [("product_id", .ofType .string true)]⟩,
    ⟨"filter_bbox", .filter, "Restrict the data source to a bounding box",
      Dict.ofList [imagery, ("left", .ofType .number true), ("right", .ofType .number true),
        ("top", .ofType .number true), ("bottom", .ofType .number true),
        ("srs", .ofType .string false (some "^EPSG:\\d+$"))]⟩,
    ⟨"filter_daterange", .filter, "Restrict the data source to a date range",
      Dict.ofList [imagery, ("from", .ofType .string true (some datePattern)),
        ("to", .ofType .string true (some datePattern))]⟩,
    ⟨"filter_bands", .filter, "Restrict the data source to a set of bands",
      Dict.ofList [imagery, ("bands", .ofType .array true)]⟩,
    ⟨"NDVI", .operation, "Normalized difference vegetation index",
      Dict.ofList [imagery, ("red", .ofType .string true (some bandPattern)),
        ("nir", .ofType .string true (some bandPattern))]⟩,
    ⟨"min_time", .operation, "Temporal minimum per pixel", Dict.ofList [imagery]⟩,
    ⟨"max_time", .operation, "Temporal maximum per pixel", Dict.ofList [imagery]⟩,
    ⟨"mean_time", .operation, "Temporal mean per pixel", Dict.ofList [imagery]⟩]

def builtinProducts : List ProductSpec :=
  [⟨"s2a_prd_msil1c", "Sentinel-2A Level-1C top-of-atmosphere reflectance"⟩,
    ⟨"s1a_csar_grdh_iw", "Sentinel-1A GRD high resolution, IW mode"⟩]

/-- The registries that stand where none are configured. -/
def builtin : Registries where
  processes := match processesOf builtinSpecs with
    | .ok processes => processes
    | .error _ => ∅
  products := productsOf builtinProducts
  mapping := .builtin

end Registries
end ImageryJobs
