import ImageryJobs.Cluster.ImageBuild
import ImageryJobs.Cluster.Template.Config
import ImageryJobs.Cluster.Template.Volume
import ImageryJobs.Engine.Config
import ImageryJobs.Engine.Error
import ImageryJobs.Engine.Outcome
import ImageryJobs.Engine.Record

/-!
Running a job: its tasks one after the other in the order of their numbers. A task gets an output
volume, a config map, the image of its process and a batch job; it reads the volumes of the tasks
that it depends on, which are deleted after it, and its own goes into the arena. Whatever the end,
everything that was created is deleted, image streams apart.
-/

namespace ImageryJobs

/-- What happens to a task, as observers are told. -/
inductive TaskEvent where
  /-- The objects of the task are about to be created. -/
  | started (task : Task)
  /-- The batch job of the task succeeded. -/
  | finished (task : Task) (outcome : TaskOutcome)
  /-- The task failed or was cancelled. -/
  | failed (task : Task) (error : EngineError)
  deriving DecidableEq

/-- What a run may ask: the cluster, the clock and the observer of the job. -/
inductive EngineOp where
  | cluster (op : ClusterOp)
  | report (event : TaskEvent)
  deriving DecidableEq

abbrev EngineOp.Answer : EngineOp → Type
  | .cluster op => op.Answer
  | .report _ => Except EngineError Unit

abbrev engineInterface : Interface := ⟨EngineOp, EngineOp.Answer⟩

abbrev EngineScript := Script engineInterface

namespace EngineScript

/-- A script of cluster calls as part of a run. -/
def ofCluster (s : ClusterScript α) : EngineScript α :=
  s.interpret fun op => Script.perform (I := engineInterface) (.cluster op)

def report (event : TaskEvent) : EngineScript (Except EngineError Unit) :=
  Script.perform (I := engineInterface) (.report event)

/-- Work on a resource as part of a run. -/
def manage (work : Managing ε α) (r : Resource) : EngineScript (Except ε α × Resource) :=
  ofCluster (work.run.run r)

end EngineScript

/-- Where a task's container finds the source products. -/
def productMount : String := "/eodc"

/-- Where a task's container finds its arguments. -/
def configMount : String := "/job_config"

/-- Where a task's container puts results. -/
def resultsMount : String := "/job_results"

/-- What runs jobs: a namespace of the cluster, images and settings. -/
structure Engine where
  ns : String
  catalog : ImageCatalog
  config : EngineConfig

/-- A part of a run that may fail. -/
abbrev Running := ExceptT EngineError EngineScript

namespace Engine

/-- The error of a task whose object could not be brought to where it should be. -/
def taskError (task : Task) (logs : Option String) (e : LifecycleError) : EngineError :=
  if e.isCancelled then .cancelled task.seqNum task.processId
  else .taskFailed task.seqNum task.processId e logs

/-- How objects are watched that have no deadline of their own. -/
def watch (e : Engine) : Watch := ⟨e.config.cluster.pollInterval, e.config.cluster.watchTimeout⟩

/-- Checks that the cluster answers. -/
def probe (e : Engine) : Calling Unit := do
  let _ ← Calling.send (.get (podsPath e.ns ++ "?limit=1"))

/-- Deletes an object as far as the cluster lets it. -/
def discard (e : Engine) (r : Resource) : EngineScript Unit := do
  let _ ← EngineScript.manage (Resource.delete e.ns) r

/-- Takes or builds the image of a task's process. A build that failed is deleted once its logs
are read. -/
def buildImage (e : Engine) (jobId : String) (task : Task) : Running BuiltImage :=
  match e.catalog.get? task.processId with
  | none => throw (.unknownImage task.processId)
  | some spec =>
      let stream := ImageStreamTemplate.forProcess task.processId
      let build := BuildTemplate.forTask jobId task.id task.processId stream spec.source
      ExceptT.mk <| EngineScript.ofCluster do
        let start := ImageBuild.ofTemplates stream build
        let w : Watch := ⟨e.config.cluster.pollInterval, e.config.buildTimeout⟩
        match ← (ImageBuild.run e.ns w).run.run start with
        | (.ok built, _) => return .ok built
        | (.error cause, b) =>
            let (logs, b) ← (ImageBuild.logs e.ns).run b
            let _ ← (ImageBuild.cleanup e.ns).run.run b
            return .error (taskError task logs cause)

/-- The mounts of a task's container. -/
def mounts (e : Engine) (jobId : String) (config : Resource) (output : HeldVolume Resource)
    (inputs : List (HeldVolume Resource)) : List Mount :=
  [(Mount.claim e.config.productVolume productMount).asReadOnly,
    Mount.configMap config.name configMount,
    Mount.claim output.resource.name output.mountPath] ++
  (inputs.map fun v => (Mount.claim v.resource.name v.mountPath).asReadOnly) ++
  [(Mount.claim e.config.resultsVolume resultsMount).withSubPath jobId]

/-- The metrics of a batch job's pod under its name; nothing if they cannot be had. -/
def metrics (e : Engine) (batch : Resource) : ClusterScript (Option Json) :=
  match batch.pod with
  | none => return none
  | some pod => do
      match ← (batch.metrics e.config.cluster.metrics).run with
      | .ok series => return some (.mk [(pod, .ofDict series id)])
      | .error _ => return none

/-- Runs the batch job of a task. It is deleted whatever its end; its logs are kept, and its
metrics if it succeeded. -/
def deploy (e : Engine) (jobId : String) (task : Task) (image : String) (config : Resource)
    (output : HeldVolume Resource) (inputs : List (HeldVolume Resource)) :
    Running (Option String × Option Json) :=
  let template := BatchTemplate.forTask jobId task.id task.processId image
    (e.mounts jobId config output inputs) (e.catalog.resourcesFor task.processId)
  let w : Watch := ⟨e.config.cluster.pollInterval, e.config.batchTimeout⟩
  ExceptT.mk <| EngineScript.ofCluster do
    let (created, batch) ← (Resource.create e.ns true w).run.run (.ofTemplate template.template)
    let (logs, batch) ← (Resource.logs e.ns).run.run batch
    let logs := logs.toOption.join
    let result ← match created with
      | .ok _ => do
          let found ← e.metrics batch
          pure (.ok (logs, found))
      | .error cause => pure (.error (taskError task logs cause))
    let _ ← (Resource.delete e.ns).run.run batch
    return result

/-- Carries a task out between its output volume and its inputs. Gives the output volume as it is
known afterwards. -/
def execute (e : Engine) (jobId : String) (task : Task) (output : HeldVolume Resource)
    (config : Resource) (inputs : List (HeldVolume Resource)) :
    EngineScript (Except EngineError TaskOutcome × HeldVolume Resource) := do
  let (made, resource) ← EngineScript.manage (Resource.create e.ns true e.watch) output.resource
  let output := { output with resource }
  let rest : Running TaskOutcome := do
    ExceptT.mk (pure (made.mapError (taskError task none)))
    let (made, config) ← EngineScript.manage (Resource.create e.ns true e.watch) config
    ExceptT.mk (pure (made.mapError (taskError task none)))
    let built ← e.buildImage jobId task
    let (logs, metrics) ← e.deploy jobId task built.image config output inputs
    return ⟨built.image, built.reused, built.logs, logs, metrics⟩
  return (← rest.run, output)

/-- Runs one task: takes its inputs, carries it out, deletes what it no longer needs, and puts its
output into the arena. -/
def runTask (e : Engine) (jobId : String) (task : Task) (arena : Arena Resource) :
    EngineScript (Except EngineError TaskOutcome × Arena Resource) :=
  match arena.take task.seqNum task.dependsOn with
  | .error cause => return (.error (.volume cause), arena)
  | .ok (inputs, arena) => do
      let output : HeldVolume Resource := ⟨task.seqNum, dataPath jobId task.id,
        .ofTemplate (VolumeTemplate.forTask jobId task.id e.config.cluster).template⟩
      let config := Resource.ofTemplate
        (ConfigTemplate.forTask jobId task.id task.args (inputs.map (·.mountPath))).template
      let (result, output) ← e.execute jobId task output config inputs
      e.discard config
      inputs.forM fun v => e.discard v.resource
      match result with
      | .ok outcome =>
          match arena.register output with
          | .ok arena => return (.ok outcome, arena)
          | .error cause => return (.error (.volume cause), arena)
      | .error cause =>
          e.discard output.resource
          return (.error cause, arena)

/-- Runs tasks one after the other; the first that does not finish ends the run. An observer that
fails ends it too, except when it is told of a failure. -/
def runTasks (e : Engine) (jobId : String) : List Task → Arena Resource →
    EngineScript (Except EngineError (List TaskOutcome) × Arena Resource)
  | [], arena => return (.ok [], arena)
  | task :: rest, arena => do
      if ← EngineScript.ofCluster (ClusterScript.pause 0) then
        let error := EngineError.cancelled task.seqNum task.processId
        let _ ← EngineScript.report (.failed task error)
        return (.error error, arena)
      else
        match ← EngineScript.report (.started task) with
        | .error error => return (.error error, arena)
        | .ok _ =>
            match ← e.runTask jobId task arena with
            | (.error error, arena) =>
                let _ ← EngineScript.report (.failed task error)
                return (.error error, arena)
            | (.ok outcome, arena) =>
                match ← EngineScript.report (.finished task outcome) with
                | .error error => return (.error error, arena)
                | .ok _ =>
                    match ← e.runTasks jobId rest arena with
                    | (.ok outcomes, arena) => return (.ok (outcome :: outcomes), arena)
                    | (.error error, arena) => return (.error error, arena)

/-- The order in which tasks run. -/
def ordered (tasks : List Task) : List Task := tasks.mergeSort fun a b => a.seqNum ≤ b.seqNum

/-- Runs a job. Volumes that nobody took are deleted at the end. -/
def run (e : Engine) (jobId : String) (tasks : List Task) :
    EngineScript (Except EngineError (List TaskOutcome)) :=
  let tasks := ordered tasks
  match Arena.plan (tasks.map fun t => (t.seqNum, t.dependsOn)) with
  | .error cause => return .error (.volume cause)
  | .ok arena => do
      let (result, arena) ← e.runTasks jobId tasks arena
      arena.drain.1.forM fun v => e.discard v.resource
      return result

end Engine
end ImageryJobs
