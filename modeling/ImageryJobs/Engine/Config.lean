import ImageryJobs.Cluster.Config
import ImageryJobs.Engine.Catalog
import ImageryJobs.Graph.Registry

/-!
How jobs are run: the cluster, the shared volumes, the deadlines, and the files that stand in
place of the builtin tables.
-/

namespace ImageryJobs

/-- How jobs are run. -/
structure EngineConfig where
  databaseUrl : String
  cluster : ClusterConfig
  /-- The claim that holds the source products. -/
  productVolume : String
  /-- The claim that takes the results of jobs. -/
  resultsVolume : String
  /-- How long to wait for the build of an image. -/
  buildTimeout : Millis
  /-- How long to wait for a batch job. -/
  batchTimeout : Millis
  processRegistry : Option String
  productRegistry : Option String
  filterMapping : Option String
  imageCatalog : Option String
  deriving DecidableEq

/-- Why the configuration of an engine cannot be read. -/
inductive EngineConfigError where
  | cluster (error : ConfigError)
  | invalidNumber (name : String)
  deriving DecidableEq

def EngineConfigError.message : EngineConfigError → String
  | .cluster error => s!"Cluster configuration: {error.message}"
  | .invalidNumber name => (ConfigError.invalidNumber name).message

namespace EngineConfig

/-- The defaults around the configuration of a cluster. -/
def ofCluster (cluster : ClusterConfig) : EngineConfig where
  databaseUrl := "sqlite:eoflow.db"
  cluster := cluster
  productVolume := "pvc-eodc"
  resultsVolume := "pvc-results"
  buildTimeout := 1800000
  batchTimeout := 3600000
  processRegistry := none
  productRegistry := none
  filterMapping := none
  imageCatalog := none

/-- A span of time in seconds. -/
def seconds (v : Variables) (name : String) (default : Millis) :
    Except EngineConfigError Millis :=
  (v.seconds name default).mapError fun _ => .invalidNumber name

/-- Reads a configuration. -/
def ofVariables (v : Variables) : Except EngineConfigError EngineConfig := do
  let cluster ← (ClusterConfig.ofVariables v).mapError .cluster
  let initial := ofCluster cluster
  let buildTimeout ← seconds v "EOFLOW_BUILD_TIMEOUT_SECS" initial.buildTimeout
  let batchTimeout ← seconds v "EOFLOW_BATCH_TIMEOUT_SECS" initial.batchTimeout
  return {
    databaseUrl := v.text "EOFLOW_DATABASE_URL" initial.databaseUrl
    cluster
    productVolume := v.text "EOFLOW_PRODUCT_VOLUME" initial.productVolume
    resultsVolume := v.text "EOFLOW_RESULTS_VOLUME" initial.resultsVolume
    buildTimeout, batchTimeout
    processRegistry := v.get? "EOFLOW_PROCESS_REGISTRY"
    productRegistry := v.get? "EOFLOW_PRODUCT_REGISTRY"
    filterMapping := v.get? "EOFLOW_FILTER_MAPPING"
    imageCatalog := v.get? "EOFLOW_IMAGE_CATALOG" }

/-- What a file holds, or what stands in its place where none is configured. -/
def loadFrom (file : Option String) (contents : String → Option String) (builtin : α)
    (missing : ε) (read : String → Except ε α) : Except ε α :=
  match file with
  | none => .ok builtin
  | some path =>
      match contents path with
      | none => .error missing
      | some text => read text

/-- Loads the registries from files. -/
def registries (c : EngineConfig) (contents : String → Option String) :
    Except RegistryError Registries := do
  let processes ← loadFrom c.processRegistry contents Registries.builtin.processes .unreadable
    Registries.readProcesses
  let products ← loadFrom c.productRegistry contents Registries.builtin.products .unreadable
    Registries.readProducts
  let mapping ← loadFrom c.filterMapping contents Registries.builtin.mapping .unreadable
    Registries.readMapping
  return ⟨processes, products, mapping⟩

/-- Loads the image catalog from a file. -/
def catalog (c : EngineConfig) (contents : String → Option String) :
    Except CatalogError ImageCatalog :=
  loadFrom c.imageCatalog contents ImageCatalog.builtin .unreadable ImageCatalog.read

end EngineConfig

/-- The name of the cause. -/
def EngineConfigError.kind : EngineConfigError → String
  | .cluster _ => "Cluster"
  | .invalidNumber _ => "InvalidNumber"

end ImageryJobs
