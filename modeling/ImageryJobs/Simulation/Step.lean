import ImageryJobs.Service.Service
import ImageryJobs.Simulation.Cluster
import ImageryJobs.Store.Opening

/-!
Scenarios: steps that are taken one after the other against a cluster in memory, with what each of
them gives, and incidents that strike when chosen requests arrive.
-/

namespace ImageryJobs.Simulation

/-- How work is watched, and whether it is cancelled before it begins. -/
structure Conditions where
  watch : Watch
  cancelled : Bool
  deriving DecidableEq

/-- The tables of a store. -/
inductive Table where
  | jobs
  | tasks
  deriving DecidableEq

/-- What is written into a column by hand. -/
inductive Cell where
  | null
  | number (value : Int)
  | text (value : String)
  deriving DecidableEq

/-- A step of a scenario. Resources and builds go by ids that the scenario gives them. -/
inductive Step where
  | injectConflicts (kind : ResourceKind) (count : Nat)
  | failProcess (processId : String)
  | failBuild (processId : String)
  | holdProcess (processId : String)
  | releaseProcess (processId : String)
  | seedImage (processId : String)
  | setUnavailable (value : Bool)
  | setLogs (processId text : String)
  | insertObject (kind : ResourceKind) (document : Json)
  /-- A request that no incident strikes and no log shows. -/
  | request (request : Request)
  | objectNames (kind : ResourceKind)
  | object (kind : ResourceKind) (name : String)
  | podNames
  | countRequests (verb : Verb) (kind : ResourceKind)
  | requests
  | leftovers
  /-- Cancels the work on a resource or the run of an engine that began last. -/
  | cancel
  | newResource (id : String) (template : Template)
  | create (id : String) (watch : Bool) (conditions : Conditions)
  | waitReady (id : String) (conditions : Conditions)
  | delete (id : String)
  | fetch (id : String)
  | logs (id : String)
  | metrics (id : String) (series : List String)
  | state (id : String)
  | newBuild (id : String) (build : ImageBuild)
  | runBuild (id : String) (conditions : Conditions)
  | existingImage (id : String)
  | buildLogs (id : String)
  | cleanupBuild (id : String)
  /-- Runs tasks by an engine. The observer fails at the event with a given label. -/
  | runEngine (engine : Engine) (jobId : String) (tasks : List Task) (fails : Option String)
      (cancelled : Bool)
  | probe (engine : Engine)
  /-- Opens a store, if its address tells how. -/
  | openStore (opening : Option StoreOpening)
  | closeStore
  | store (op : StoreOp)
  /-- Overwrites a column of a row. -/
  | overwrite (table : Table) (id column : String) (cell : Cell)
  | countRows
  | submit (userId : String) (request : Json)
  /-- Starts a job and waits for its worker. -/
  | start (jobId : String)
  | runJob (jobId : String)
  | cancelJob (jobId : String)
  | getJob (jobId : String)
  | jobTasks (jobId : String)
  | taskStates (jobId : String)
  | health

/-- The name of a step. -/
def Step.name : Step → String
  | .injectConflicts .. => "inject_conflicts"
  | .failProcess _ => "fail_process"
  | .failBuild _ => "fail_build"
  | .holdProcess _ => "hold_process"
  | .releaseProcess _ => "release_process"
  | .seedImage _ => "seed_image"
  | .setUnavailable _ => "set_unavailable"
  | .setLogs .. => "set_logs"
  | .insertObject .. => "insert_object"
  | .request _ => "request"
  | .objectNames _ => "object_names"
  | .object .. => "object"
  | .podNames => "pod_names"
  | .countRequests .. => "count_requests"
  | .requests => "requests"
  | .leftovers => "leftovers"
  | .cancel => "cancel"
  | .newResource .. => "new"
  | .create .. => "create"
  | .waitReady .. => "wait_ready"
  | .delete _ => "delete"
  | .fetch _ => "fetch"
  | .logs _ => "logs"
  | .metrics .. => "metrics"
  | .state _ => "state"
  | .newBuild .. => "build_new"
  | .runBuild .. => "build_run"
  | .existingImage _ => "build_existing"
  | .buildLogs _ => "build_logs"
  | .cleanupBuild _ => "build_cleanup"
  | .runEngine .. => "engine_run"
  | .probe _ => "probe"
  | .openStore _ => "store_open"
  | .closeStore => "store_close"
  | .store (.insert ..) => "insert"
  | .store (.getJob _) => "store_get"
  | .store (.listTasks _) => "store_tasks"
  | .store (.transition ..) => "transition"
  | .store (.updateTask ..) => "update_task"
  | .store (.cancelPending _) => "cancel_pending"
  | .store .health => "store_health"
  | .overwrite .. => "corrupt"
  | .countRows => "counts"
  | .submit .. => "submit"
  | .start _ => "start"
  | .runJob _ => "run_job"
  | .cancelJob _ => "cancel_job"
  | .getJob _ => "get_job"
  | .jobTasks _ => "job_tasks"
  | .taskStates _ => "task_states"
  | .health => "health"

/-- Why work on a resource failed. -/
inductive Failure where
  | request (cause : ClusterError)
  | lifecycle (cause : LifecycleError)
  deriving DecidableEq

/-- What a step gives. -/
inductive Outcome where
  | nothing
  | reply (reply : Reply)
  | names (names : List String)
  | object (document : Option Json)
  | count (count : Nat)
  | requests (requests : List Request)
  | leftovers (objects : ByKind (List String)) (pods : List String)
  | state (resource : Resource)
  | managed (result : Except Failure Json) (elapsed : Millis) (resource : Resource)
  | built (result : Except LifecycleError BuiltImage) (elapsed : Millis) (build : ImageBuild)
  | image (result : Except LifecycleError (Option String)) (elapsed : Millis) (build : ImageBuild)
  | run (result : Except EngineError (List TaskOutcome)) (events : List String) (elapsed : Millis)
  | probed (result : Except ClusterError Unit)
  | opened (result : Except StoreError Unit)
  | stored (op : StoreOp) (result : Except StoreError op.Answer)
  | overwritten (result : Except StoreError Nat)
  | rows (jobs tasks : Nat)
  | job (result : Except ServiceError Job)
  | started (result : Except ServiceError (Except ServiceError JobStatus))
  | status (result : Except ServiceError JobStatus)
  | served (result : Except ServiceError Unit)
  | tasks (result : Except ServiceError (List Task))
  | statuses (result : Except ServiceError (List TaskStatus))

/-- An incident: what happens when a chosen request arrives. Its steps are taken first; a reply of
its own keeps the request from the cluster. -/
structure Incident where
  verb : Option Verb
  /-- What the path must contain. -/
  path : Option String
  /-- At which of the matching requests it strikes; 0 means at each. -/
  nth : Nat
  act : List Step
  reply : Option Reply

namespace Incident

/-- Whether a request is of the chosen sort. -/
def concerns (i : Incident) (r : Request) : Bool :=
  (i.verb.all (· = r.verb)) && (i.path.all fun part => Text.contains part r.path)

end Incident

/-- What happened during a step. -/
inductive LogEntry where
  | traffic (request : Request) (reply : Reply)
  | action (step : Step) (outcome : Outcome)

end ImageryJobs.Simulation
