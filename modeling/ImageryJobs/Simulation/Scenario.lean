import ImageryJobs.Simulation.Directory
import ImageryJobs.Simulation.Overwrite
import ImageryJobs.Simulation.World

/-!
Taking the steps of a scenario. The steps of an incident are taken while a request waits, and may
be struck by incidents themselves; how deep this goes is limited.
-/

namespace ImageryJobs.Simulation

namespace Scenario

/-- Changes the cluster. -/
def arrange (f : SimulatedCluster → SimulatedCluster) : Sim Outcome := do
  modify fun w => { w with cluster := f w.cluster }
  return .nothing

/-- Looks at the cluster. -/
def view (f : SimulatedCluster → Outcome) : Sim Outcome := do return f (← get).cluster

/-- Runs cluster calls under a token. -/
def runCluster (act : Step → Sim Outcome) (token : Token) (s : ClusterScript α) : Sim α :=
  s.run (Sim.clusterOp act token)

/-- Work on a resource of the scenario. -/
def manage (act : Step → Sim Outcome) (key : String) (token : Token) (wrap : ε → Failure)
    (value : α → Json) (work : Managing ε α) : Sim Outcome := do
  match (← get).resources.get? key with
  | none => return .nothing
  | some r =>
      let ((result, r), elapsed) ← Sim.timed (runCluster act token (work.run.run r))
      modify fun w => { w with resources := w.resources.insert key r }
      return .managed ((result.mapError wrap).map value) elapsed r

/-- Work on a build of the scenario. -/
def manageBuild (act : Step → Sim Outcome) (key : String) (token : Token)
    (outcome : α → Millis → ImageBuild → Outcome)
    (work : StateT ImageBuild ClusterScript α) : Sim Outcome := do
  match (← get).builds.get? key with
  | none => return .nothing
  | some b =>
      let ((result, b), elapsed) ← Sim.timed (runCluster act token (work.run b))
      modify fun w => { w with builds := w.builds.insert key b }
      return outcome result elapsed b

/-- A call of the service. -/
def serve (act : Step → Sim Outcome) (call : Service → Serving α)
    (outcome : Except ServiceError α → Outcome) : Sim Outcome := do
  match (← get).service with
  | none => return .nothing
  | some service => return outcome (← (call service).run.run (Sim.serviceOp act))

/-- A submission, whose ids are numbered. -/
def submit (act : Step → Sim Outcome) (userId : String) (request : Json) : Sim Outcome := do
  modify fun w => { w with issued := 0 }
  let outcome ← serve act (fun s => s.submit userId request) .job
  match outcome with
  | .job (.ok _) => modify fun w => { w with submissions := (w.issued - 1) :: w.submissions }
  | _ => pure ()
  return outcome

/-- Starts a job and runs its worker to the end. -/
def start (act : Step → Sim Outcome) (jobId : String) : Sim Outcome := do
  match (← get).service with
  | none => return .nothing
  | some service =>
      match ← (Service.startProcessing jobId).run.run (Sim.serviceOp act) with
      | .error e => return .started (.error e)
      | .ok _ => return .started (.ok (← (service.runJob jobId).run.run (Sim.serviceOp act)))

/-- Runs tasks by an engine. -/
def runEngine (act : Step → Sim Outcome) (engine : Engine) (jobId : String) (tasks : List Task)
    (fails : Option String) (cancelled : Bool) : Sim Outcome := do
  let token ← Sim.begin cancelled
  let ((result, events), elapsed) ← Sim.timed
    (((engine.run jobId tasks).run (Sim.engineOp act token fails)).run [])
  return .run result events.reverse elapsed

/-- Why a store that cannot be written is not set up. -/
def notSetUp : StoreError := .migration "the tables cannot be written"

/-- Makes a store the open one; `fresh` puts an empty one in its place. -/
def connect (key : String) (writes fresh : Bool) : Sim Outcome := do
  modify fun w => { w with
    databases := if fresh then w.databases.insert key .empty else w.databases
    connection := some ⟨key, writes⟩ }
  return .opened (.ok ())

/-- Opens a store. One that has no tables yet must be written. -/
def openStore (opening : Option StoreOpening) : Sim Outcome := do
  let failed : Outcome := .opened (.error (.database "the store cannot be opened"))
  match opening with
  | none => return failed
  | some ⟨.memory name, _, writes⟩ =>
      let key := "memory:" ++ name.getD ""
      if name.isSome && (← get).connection.any (·.key = key) then connect key writes false
      else if writes then connect key true true
      else return .opened (.error notSetUp)
  | some ⟨.file path, creates, writes⟩ =>
      if !Directory.canHold path then return failed
      let key := "/" ++ "/".intercalate path
      if (← get).databases.contains key then connect key writes false
      else if !creates then return failed
      else if writes then connect key true true
      else return .opened (.error notSetUp)

/-- Overwrites a column in the store that is open. -/
def overwriteColumn (table : Table) (id column : String) (cell : Cell) : Sim Outcome := do
  let w ← get
  match Sim.openedStore w with
  | none => return .overwritten (.error .unreachable)
  | some (connection, s) =>
      if !connection.writes then return .overwritten (.error .readOnly)
      match overwrite s table id column cell with
      | .error e => return .overwritten (.error e)
      | .ok (count, s) =>
          set { w with databases := w.databases.insert connection.key s }
          return .overwritten (.ok count)

/-- Counts the rows of the store that is open. -/
def countRows : Sim Outcome := do
  match Sim.openedStore (← get) with
  | none => return .nothing
  | some (_, s) => return .rows s.jobs.size s.tasks.size

/-- Cancels the work that began last. -/
def cancelLast : Sim Outcome := do
  match (← get).current with
  | some token => do
      Sim.trip token
      return .nothing
  | none => return .nothing

/-- Takes a step in a namespace, with `act` taking the steps of incidents. -/
def takeIn (ns : String) (act : Step → Sim Outcome) : Step → Sim Outcome
  | .injectConflicts kind count => arrange (·.injectConflicts kind count)
  | .failProcess processId => arrange (·.failProcess processId)
  | .failBuild processId => arrange (·.failBuild processId)
  | .holdProcess processId => arrange (·.holdProcess processId)
  | .releaseProcess processId => arrange (·.releaseProcess processId)
  | .seedImage processId => arrange (·.seedImage processId)
  | .setUnavailable value => arrange fun c => { c with unavailable := value }
  | .setLogs processId text => arrange (·.setLogs processId text)
  | .insertObject kind document => arrange (·.insertObject kind document)
  | .request r => return .reply (← Sim.cluster r)
  | .objectNames kind => view fun c => .names (c.objectNames kind)
  | .object kind name => view fun c => .object (c.document? kind name)
  | .podNames => view fun c => .names c.pods.keys
  | .countRequests verb kind => view fun c => .count (c.countRequests verb kind)
  | .requests => view fun c => .requests c.requests
  | .leftovers => view fun c => .leftovers (c.objects.map (·.keys)) c.pods.keys
  | .cancel => cancelLast
  | .newResource key template => do
      let r := Resource.ofTemplate template
      modify fun w => { w with resources := w.resources.insert key r }
      return .state r
  | .create key watch conditions => do
      manage act key (← Sim.begin conditions.cancelled) .lifecycle (fun _ => .null)
        (Resource.create ns watch conditions.watch)
  | .waitReady key conditions => do
      manage act key (← Sim.begin conditions.cancelled) .lifecycle id
        (Resource.waitReady ns conditions.watch)
  | .delete key => do
      manage act key (← Sim.freshToken) .lifecycle (fun _ => .null) (Resource.delete ns)
  | .fetch key => do
      manage act key (← Sim.freshToken) .request (Json.ofOption · id) do
        Managing.ofCall id ((← get).fetch ns)
  | .logs key => do
      manage act key (← Sim.freshToken) .request (Json.ofOption · .string) (Resource.logs ns)
  | .metrics key series => do
      manage act key (← Sim.freshToken) .request (Json.ofDict · id) do
        Managing.ofCall id ((← get).metrics series)
  | .state key => do
      match (← get).resources.get? key with
      | some r => return .state r
      | none => return .nothing
  | .newBuild key build => do
      modify fun w => { w with builds := w.builds.insert key build }
      return .nothing
  | .runBuild key conditions => do
      manageBuild act key (← Sim.begin conditions.cancelled) .built
        (ImageBuild.run ns conditions.watch).run
  | .existingImage key => do
      manageBuild act key (← Sim.begin false) .image do ((← get).existingImage ns).run
  | .buildLogs key => do
      manageBuild act key (← Sim.begin false) .image do return .ok (← ImageBuild.logs ns)
  | .cleanupBuild key => do
      manageBuild act key (← Sim.begin false) .image do
        return (← (ImageBuild.cleanup ns).run).map fun _ => none
  | .runEngine engine jobId tasks fails cancelled =>
      runEngine act engine jobId tasks fails cancelled
  | .probe engine => do
      let token ← Sim.freshToken
      return .probed (← runCluster act token engine.probe.run)
  | .openStore opening => openStore opening
  | .closeStore => do
      modify fun w => { w with connection := none }
      return .nothing
  | .store op => return .stored op (← Sim.storeOp op)
  | .overwrite table key column cell => overwriteColumn table key column cell
  | .countRows => countRows
  | .submit userId request => submit act userId request
  | .start jobId => start act jobId
  | .runJob jobId => serve act (fun s => s.runJob jobId) .status
  | .cancelJob jobId => serve act (fun _ => Service.cancel jobId) .served
  | .getJob jobId => serve act (fun _ => Service.getJob jobId) .job
  | .jobTasks jobId => serve act (fun _ => Service.listTasks jobId) .tasks
  | .taskStates jobId => serve act (fun _ => Service.listTasks jobId) fun result =>
      .statuses (result.map fun tasks => tasks.map (·.status))
  | .health => serve act (fun s => s.healthCheck) .served

/-- Takes a step, with `act` taking the steps of incidents. -/
def take (act : Step → Sim Outcome) (step : Step) : Sim Outcome := do
  takeIn (← get).ns act step

/-- How deep incidents may strike the steps of incidents. -/
def depthLimit : Nat := 32

/-- Takes a step. At the greatest depth the steps of incidents are left out. -/
def perform : (depth : Nat) → Step → Sim Outcome
  | 0 => take fun _ => return .nothing
  | depth + 1 => take (perform depth)

/-- Takes a step, and gives what happened during it. -/
def performLogged (step : Step) : Sim (Outcome × List LogEntry) := do
  modify fun w => { w with log := [] }
  let outcome ← perform depthLimit step
  return (outcome, (← get).log.reverse)

/-- Takes the steps of a scenario one after the other. With a service, a store is opened first. -/
def run (w : World) (steps : List Step) : List (Outcome × List LogEntry) × World :=
  let prepare : Sim Unit := do
    if w.service.isSome then
      let _ ← connect "memory:" true true
  (do prepare; steps.mapM performLogged).run w

end Scenario
end ImageryJobs.Simulation
