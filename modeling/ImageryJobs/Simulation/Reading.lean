import ImageryJobs.Json.Access
import ImageryJobs.Simulation.Directory
import ImageryJobs.Simulation.Step

/-!
Scenarios written as JSON: templates, replies, steps and incidents read from objects. What an
object leaves out takes its default.
-/

namespace ImageryJobs.Simulation

/-- Why a step cannot be read. -/
inductive ScenarioError where
  | graph (cause : GraphError)
  | catalog (cause : CatalogError)
  | unknownStatus
  | unknownStep (name : String)
  deriving DecidableEq

def sourceOf (j : Json) : BuildSource :=
  ⟨j.stringAt "git_uri", (j.stringAt? "git_ref").getD BuildSource.defaultRef,
    j.stringAt? "context_dir"⟩

def mountOf (j : Json) : Mount :=
  let base := match j.stringAt? "claim" with
    | some name => Mount.claim name (j.stringAt "path")
    | none => Mount.configMap (j.stringAt "config_map") (j.stringAt "path")
  let base := if j.memberAt "read_only" = .bool true then base.asReadOnly else base
  match j.stringAt? "sub_path" with
  | some part => base.withSubPath part
  | none => base

def resourcesOf (j : Json) : ComputeResources :=
  (((j.presentAt? "resources").bind fun r => ComputeResources.schema.ofJson? r)).getD .initial

def volumeOf (t : Json) : VolumeTemplate :=
  match t.get? "name" with
  | some _ => { VolumeTemplate.named (t.stringAt "name") (t.stringAt "size") with
      storageClass := t.stringAt? "storage_class" }
  | none =>
      let config := t.memberAt "config"
      .forTask (t.stringAt "job") (t.stringAt "task") { ClusterConfig.initial with
        storageClass := config.stringAt? "storage_class"
        volumeSize := (config.stringAt? "volume_size").getD ClusterConfig.initial.volumeSize }

def streamOf (t : Json) : ImageStreamTemplate :=
  .forProcess ((t.stringAt? "stream").getD (t.stringAt "process"))

def buildOf (t : Json) : BuildTemplate :=
  .forTask (t.stringAt "job") (t.stringAt "task") (t.stringAt "process") (streamOf t)
    (sourceOf (t.memberAt "source"))

def configOf (t : Json) : ConfigTemplate :=
  .forTask (t.stringAt "job") (t.stringAt "task") (t.membersAt "args") (t.stringsAt "input_mounts")

def batchOf (t : Json) : BatchTemplate :=
  .forTask (t.stringAt "job") (t.stringAt "task") (t.stringAt "process") (t.stringAt "image")
    ((t.itemsAt "mounts").map mountOf) (resourcesOf t)

def templateOf (t : Json) : Template :=
  match t.stringAt "type" with
  | "volume" => (volumeOf t).template
  | "imagestream" => (streamOf t).template
  | "build" => (buildOf t).template
  | "config" => (configOf t).template
  | _ => (batchOf t).template

def replyOf (j : Json) : Reply :=
  match j.get? "json" with
  | some value => .ok (.json value)
  | none =>
      match j.get? "text", j.get? "api" with
      | some (.string text), _ => .ok (.text text)
      | _, some (.array [code, .string body]) => .error (.api (code.nat?.getD 0) body)
      | _, _ =>
          match j.stringAt? "transport", j.stringAt? "timeout", j.stringAt? "decode" with
          | some text, _, _ => .error (.transport text)
          | _, some text, _ => .error (.timeout text)
          | _, _, some text => .error (.decode text)
          | _, _, _ => .ok .empty

/-- A catalog: the builtin one where none is given. -/
def catalogOf (j : Json) : Except CatalogError ImageCatalog :=
  match j.presentAt? "catalog" with
  | some doc => ImageCatalog.read (Json.documentText doc)
  | none =>
      if j.memberAt "empty" = .bool true then .ok (.ofResources .initial) else .ok .builtin

def kindOf (j : Json) : ResourceKind := (ResourceKind.ofName? (j.stringAt "kind")).getD .volume

def verbOf : String → Verb
  | "POST" => .post
  | "DELETE" => .delete
  | _ => .get

def apiOf (j : Json) : Api := if j.stringAt "api" = "metrics" then .metrics else .controlPlane

def requestOf (j : Json) : Request :=
  ⟨apiOf j, verbOf (j.stringAt "verb"), j.stringAt "path", j.get? "body"⟩

def conditionsOf (j : Json) : Conditions :=
  ⟨⟨j.natAt "interval_ms" 1000, j.natAt "timeout_ms" 3600000⟩, j.flagAt "cancelled"⟩

/-- The configuration of an engine: the default one with some changes. -/
def engineConfigOf (j : Json) : EngineConfig :=
  let c := ClusterConfig.initial
  let cluster := { c with
    storageClass := (j.stringAt? "storage_class").or c.storageClass
    volumeSize := (j.stringAt? "volume_size").getD c.volumeSize
    metrics := if (j.presentAt? "metrics").isSome then j.stringsAt "metrics" else c.metrics
    pollInterval := j.natAt "poll_ms" c.pollInterval
    watchTimeout := j.natAt "watch_ms" c.watchTimeout }
  let e := EngineConfig.ofCluster cluster
  let base := j.stringsAt "base_volumes"
  { e with
    buildTimeout := j.natAt "build_ms" e.buildTimeout
    batchTimeout := j.natAt "batch_ms" e.batchTimeout
    productVolume := base[0]?.getD e.productVolume
    resultsVolume := base[1]?.getD e.resultsVolume }

def engineOf (ns : String) (j : Json) : Except CatalogError Engine := do
  return ⟨ns, ← catalogOf j, engineConfigOf (j.memberAt "config")⟩

def specOf (t : Json) : TaskSpec :=
  ⟨t.natAt "seq_num" 0, t.stringAt "process_id", t.membersAt "args",
    Json.nats (t.memberAt "depends_on")⟩

def taskOf (jobId : String) (t : Json) : Task :=
  .ofSpec (t.stringAt "id") ((t.stringAt? "job_id").getD jobId) (specOf t)

/-- The tasks of an engine's run: given, or compiled from a request. -/
def runTasksOf (j : Json) : Except GraphError (List Task) :=
  let jobId := j.stringAt "job"
  match j.get? "request" with
  | some request => do
      let graph ← Node.graphOf request
      let specs ← Node.compile .builtin graph jobId (request.get? "output")
      return specs.map fun spec => .ofSpec s!"task-{spec.seqNum}" jobId spec
  | none => .ok ((j.itemsAt "tasks").map (taskOf jobId))

def jobOf (j : Json) : Job :=
  .create (j.stringAt "id") (j.stringAt "user") (j.memberAt "graph") (j.get? "output")

def updateOf (j : Json) : TaskUpdate :=
  ⟨(j.stringAt? "status").bind TaskStatus.ofName?, j.stringAt? "error", j.stringAt? "logs",
    j.get? "metrics"⟩

/-- How a store is opened: by its address, or as a file of the scenario. -/
def openingOf (j : Json) : Option StoreOpening :=
  let address := match j.stringAt? "file", j.stringAt? "url" with
    | some name, _ => "sqlite:" ++ Directory.nameIn Directory.scenario name
    | none, some url => url
    | none, none => "sqlite::memory:"
  StoreOpening.ofAddress? Directory.working address

def cellOf : Json → Cell
  | .number (.integer n) =>
      if n < NumericCell.integerBound then .number n else .text (toString n)
  | .string text => .text text
  | .null => .null
  | j => .text j.render

/-- A step of a scenario in a namespace. -/
def stepOf (ns : String) (j : Json) : Except ScenarioError Step :=
  let id := j.stringAt "id"
  let process := j.stringAt "process"
  let job := j.stringAt "job"
  match j.stringAt "do" with
  | "inject_conflicts" => .ok (.injectConflicts (kindOf j) (j.natAt "count" 0))
  | "fail_process" => .ok (.failProcess process)
  | "fail_build" => .ok (.failBuild process)
  | "hold_process" => .ok (.holdProcess process)
  | "release_process" => .ok (.releaseProcess process)
  | "seed_image" => .ok (.seedImage process)
  | "set_unavailable" => .ok (.setUnavailable (j.flagAt "value"))
  | "set_logs" => .ok (.setLogs process (j.stringAt "logs"))
  | "insert_object" => .ok (.insertObject (kindOf j) (j.memberAt "document"))
  | "request" => .ok (.request (requestOf j))
  | "object_names" => .ok (.objectNames (kindOf j))
  | "object" => .ok (.object (kindOf j) (j.stringAt "name"))
  | "pod_names" => .ok .podNames
  | "count_requests" => .ok (.countRequests (verbOf (j.stringAt "verb")) (kindOf j))
  | "requests" => .ok .requests
  | "leftovers" => .ok .leftovers
  | "cancel" => .ok .cancel
  | "new" => .ok (.newResource id (templateOf (j.memberAt "template")))
  | "create" => .ok (.create id (j.flagAt "watch") (conditionsOf j))
  | "wait_ready" => .ok (.waitReady id (conditionsOf j))
  | "delete" => .ok (.delete id)
  | "fetch" => .ok (.fetch id)
  | "logs" => .ok (.logs id)
  | "metrics" => .ok (.metrics id (j.stringsAt "series"))
  | "state" => .ok (.state id)
  | "build_new" => .ok (.newBuild id (.ofTemplates (streamOf j) (buildOf j)))
  | "build_run" => .ok (.runBuild id (conditionsOf j))
  | "build_existing" => .ok (.existingImage id)
  | "build_logs" => .ok (.buildLogs id)
  | "build_cleanup" => .ok (.cleanupBuild id)
  | "engine_run" =>
      match engineOf ns j, runTasksOf j with
      | .ok engine, .ok tasks =>
          .ok (.runEngine engine job tasks (j.stringAt? "observer_fails") (j.flagAt "cancelled"))
      | .error e, _ => .error (.catalog e)
      | _, .error e => .error (.graph e)
  | "probe" => .ok (.probe ⟨ns, .builtin, engineConfigOf (j.memberAt "config")⟩)
  | "store_open" => .ok (.openStore (openingOf j))
  | "store_close" => .ok .closeStore
  | "insert" =>
      let record := jobOf (j.memberAt "job")
      .ok (.store (.insert record ((j.itemsAt "tasks").map (taskOf record.id))))
  | "store_get" => .ok (.store (.getJob job))
  | "store_tasks" => .ok (.store (.listTasks job))
  | "transition" =>
      match JobStatus.ofName? (j.stringAt "to") with
      | some status => .ok (.store (.transition job status (j.stringAt? "error")))
      | none => .error .unknownStatus
  | "update_task" => .ok (.store (.updateTask (j.stringAt "task") (updateOf j)))
  | "cancel_pending" => .ok (.store (.cancelPending job))
  | "store_health" => .ok (.store .health)
  | "corrupt" =>
      let table := if j.stringAt "table" = "tasks" then Table.tasks else .jobs
      .ok (.overwrite table id (j.stringAt "column") (cellOf (j.memberAt "value")))
  | "counts" => .ok .countRows
  | "submit" => .ok (.submit (j.stringAt "user") (j.memberAt "request"))
  | "start" => .ok (.start job)
  | "run_job" => .ok (.runJob job)
  | "cancel_job" => .ok (.cancelJob job)
  | "get_job" => .ok (.getJob job)
  | "job_tasks" => .ok (.jobTasks job)
  | "task_states" => .ok (.taskStates job)
  | "health" => .ok .health
  | name => .error (.unknownStep name)

def incidentOf (ns : String) (j : Json) : Incident :=
  let on := j.memberAt "on"
  { verb := (on.stringAt? "verb").map verbOf
    path := on.stringAt? "path"
    nth := on.natAt "nth" 1
    act := (j.itemsAt "act").filterMap fun step => (stepOf ns step).toOption
    reply := (j.presentAt? "reply").map replyOf }

end ImageryJobs.Simulation
