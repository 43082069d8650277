import ImageryJobs.Engine.Engine
import ImageryJobs.Service.Error
import ImageryJobs.Store.Store

/-!
The service: takes submissions, runs jobs on workers and cancels them. Every worker has a token
through which it is cancelled; a register keeps the tokens by job. Store operations and looks into
the register are single steps, between which those of other calls may come.
-/

namespace ImageryJobs

/-- A token through which work is cancelled. -/
abbrev Token := Nat

/-- A look into the register of workers. -/
inductive RegisterOp where
  /-- Gives a job a fresh token in place of an earlier one. -/
  | assign (jobId : String)
  /-- The token of a job, a fresh one if it has none. -/
  | token (jobId : String)
  /-- Takes the job off the register. -/
  | remove (jobId : String)
  /-- Trips the token of a job, if it has one. -/
  | trip (jobId : String)
  deriving DecidableEq

abbrev RegisterOp.Answer : RegisterOp → Type
  | .assign _ => Unit
  | .token _ => Token
  | .remove _ => Unit
  | .trip _ => Unit

/-- What a call of the service may ask. -/
inductive ServiceOp where
  | send (request : Request)
  /-- Waits for a span of time or until a token is tripped, and tells whether it is. -/
  | pause (token : Token) (span : Millis)
  | store (op : StoreOp)
  | register (op : RegisterOp)
  /-- An id that nothing else has. -/
  | freshId
  deriving DecidableEq

abbrev ServiceOp.Answer : ServiceOp → Type
  | .send _ => Reply
  | .pause _ _ => Bool
  | .store op => Except StoreError op.Answer
  | .register op => op.Answer
  | .freshId => String

abbrev serviceInterface : Interface := ⟨ServiceOp, ServiceOp.Answer⟩

abbrev ServiceScript := Script serviceInterface

/-- A call of the service, which may fail. -/
abbrev Serving := ExceptT ServiceError ServiceScript

namespace ServiceScript

def ask (op : ServiceOp) : ServiceScript op.Answer := Script.perform (I := serviceInterface) op

/-- A cluster call of work that has a token. -/
def ofClusterOp (token : Token) : (op : ClusterOp) → ServiceScript op.Answer
  | .send request => ask (.send request)
  | .pause span => ask (.pause token span)

/-- Cluster calls of work that has a token. -/
def ofCluster (token : Token) (s : ClusterScript α) : ServiceScript α :=
  s.interpret (ofClusterOp token)

end ServiceScript

/-- The change of a task's record that an event brings. -/
def TaskEvent.update : TaskEvent → String × TaskUpdate
  | .started task => (task.id, .ofStatus .running)
  | .finished task outcome =>
      (task.id, ⟨some .finished, none, outcome.allLogs, outcome.metrics⟩)
  | .failed task error =>
      (task.id, if error.isCancelled then ⟨some .canceled, none, error.logs?, none⟩
        else ⟨some .error, some error.message, error.logs?, none⟩)

namespace ServiceScript

/-- Records an event in the store. -/
def record (event : TaskEvent) : ServiceScript (Except EngineError Unit) := do
  let (taskId, update) := event.update
  let result ← ask (.store (.updateTask taskId update))
  return result.mapError fun e => .observer e.message

/-- A step of a run whose worker has a token. Events are recorded. -/
def ofEngineOp (token : Token) : (op : EngineOp) → ServiceScript op.Answer
  | .cluster op => ofClusterOp token op
  | .report event => record event

/-- A run of a job whose worker has a token, and whose events are recorded. -/
def ofEngine (token : Token) (s : EngineScript α) : ServiceScript α :=
  s.interpret (ofEngineOp token)

end ServiceScript

/-- What serves submissions: an engine and registries. -/
structure Service where
  engine : Engine
  registries : Registries

namespace Service

def store (op : StoreOp) : Serving op.Answer :=
  ExceptT.mk do return (← ServiceScript.ask (.store op)).mapError .store

def register (op : RegisterOp) : Serving op.Answer :=
  ExceptT.lift (ServiceScript.ask (.register op))

def freshId : Serving String := ExceptT.lift (ServiceScript.ask .freshId)

/-- Checks a submission, orders it into tasks and stores it. Nothing is stored if it is refused. -/
def submit (s : Service) (userId : String) (request : Json) : Serving Job := do
  let graph ← ExceptT.mk (pure ((Node.graphOf request).mapError .validation))
  let output := (request.get? "output").filter fun o => !o.isNull
  let jobId ← freshId
  let specs ← ExceptT.mk
    (pure ((Node.compile s.registries graph jobId output).mapError .validation))
  match specs.find? fun spec => !s.engine.catalog.contains spec.processId with
  | some spec => throw (.missingImage spec.processId)
  | none =>
      let job := Job.create jobId userId graph output
      let tasks ← specs.mapM fun spec => do return Task.ofSpec (← freshId) jobId spec
      store (.insert job tasks)
      return job

/-- A job that must exist. -/
def getJob (jobId : String) : Serving Job := do
  match ← store (.getJob jobId) with
  | some job => return job
  | none => throw (.jobNotFound jobId)

/-- Queues a new job and registers its worker, which then runs `runJob`. -/
def startProcessing (jobId : String) : Serving Unit := do
  let job ← getJob jobId
  if ← store (.transition jobId .queued none) then
    register (.assign jobId)
  else throw (.invalidTransition jobId job.status .queued)

/-- Records how a run ended, and gives the status in which the job is left. -/
def settle (jobId : String) : Except EngineError (List TaskOutcome) → Serving JobStatus
  | .ok _ => do
      if ← store (.transition jobId .finished none) then return .finished
      else return (← getJob jobId).status
  | .error error => do
      if error.isCancelled then
        let _ ← store (.transition jobId .canceled none)
        let _ ← store (.cancelPending jobId)
        return .canceled
      else
        let _ ← store (.transition jobId .error (some error.message))
        let _ ← store (.cancelPending jobId)
        match error.clusterError? with
        | some cause =>
            if cause.isUnavailable then throw (.clusterUnavailable cause) else return .error
        | none => return .error

/-- Runs a queued job under a token. -/
def drive (s : Service) (jobId : String) (token : Token) : Serving JobStatus := do
  if ← store (.transition jobId .running none) then
    let tasks ← store (.listTasks jobId)
    let result ← ExceptT.lift (ServiceScript.ofEngine token (s.engine.run jobId tasks))
    settle jobId result
  else
    let job ← getJob jobId
    if job.status = .canceled then return .canceled
    else throw (.invalidTransition jobId job.status .running)

/-- What a worker does: runs a queued job to its end. A job that was canceled before is left
alone. -/
def runJob (s : Service) (jobId : String) : Serving JobStatus := do
  let token ← register (.token jobId)
  let result ← ExceptT.lift (s.drive jobId token).run
  register (.remove jobId)
  ExceptT.mk (pure result)

/-- Cancels a queued or running job with its pending tasks, and trips the token of its worker. -/
def cancel (jobId : String) : Serving Unit := do
  if ← store (.transition jobId .canceled none) then
    let _ ← store (.cancelPending jobId)
    register (.trip jobId)
  else
    let job ← getJob jobId
    throw (.invalidTransition jobId job.status .canceled)

/-- The tasks of a job that must exist. -/
def listTasks (jobId : String) : Serving (List Task) := do
  let _ ← getJob jobId
  store (.listTasks jobId)

/-- Checks the store, then the cluster. The probe never waits, so any token will do. -/
def healthCheck (s : Service) : Serving Unit := do
  store .health
  ExceptT.mk do
    return (← ServiceScript.ofCluster 0 s.engine.probe.run).mapError .clusterUnavailable

end Service
end ImageryJobs
