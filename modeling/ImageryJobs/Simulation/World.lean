import ImageryJobs.Simulation.Step

/-!
The surroundings in which a scenario takes place: a cluster in memory, a clock that only pauses
move, tokens, stores, and the register of workers. Everything that scripts ask is answered here.
-/

namespace ImageryJobs.Simulation

/-- A store that is open. -/
structure Connection where
  /-- What the store goes by among all stores. -/
  key : String
  writes : Bool
  deriving DecidableEq

/-- The surroundings of a scenario. -/
structure World where
  cluster : SimulatedCluster
  clock : Millis
  /-- The incidents, and how many requests have matched each. -/
  incidents : List (Incident × Nat)
  /-- What happened during the present step, the last first. -/
  log : List LogEntry
  /-- The number of tokens given out. -/
  tokens : Nat
  tripped : List Token
  /-- The token of the work that began last. -/
  current : Option Token
  /-- The tokens of workers by job. -/
  register : Dict String Token
  /-- Stores by their keys. -/
  databases : Dict String Store
  connection : Option Connection
  /-- The number of tasks of each accepted submission, the last first. -/
  submissions : List Nat
  /-- The number of ids given to the present submission. -/
  issued : Nat
  resources : Dict String Resource
  builds : Dict String ImageBuild
  service : Option Service

namespace World

def initial (ns : String) (looksToComplete : Nat) (incidents : List Incident)
    (service : Option Service) : World where
  cluster := .empty ns looksToComplete
  clock := 0
  incidents := incidents.map fun i => (i, 0)
  log := []
  tokens := 0
  tripped := []
  current := none
  register := ∅
  databases := ∅
  connection := none
  submissions := []
  issued := 0
  resources := ∅
  builds := ∅
  service := service

def ns (w : World) : String := w.cluster.ns

end World

/-- Something done in the surroundings of a scenario. -/
abbrev Sim := StateM World

namespace Sim

def note (entry : LogEntry) : Sim Unit := modify fun w => { w with log := entry :: w.log }

/-- A token that nothing else has. -/
def freshToken : Sim Token := do
  let w ← get
  set { w with tokens := w.tokens + 1 }
  return w.tokens

def trip (token : Token) : Sim Unit := modify fun w => { w with tripped := token :: w.tripped }

/-- Counts a request with every incident that it concerns, and gives those that strike. -/
def strike (r : Request) : Sim (List Incident) := do
  let w ← get
  let counted := w.incidents.map fun (i, n) => (i, if i.concerns r then n + 1 else n)
  set { w with incidents := counted }
  return (counted.filter fun (i, n) => i.concerns r && (i.nth = 0 || i.nth = n)).map Prod.fst

/-- Answers by the cluster. -/
def cluster (r : Request) : Sim Reply := do
  let w ← get
  let (reply, cluster) := w.cluster.answer r
  set { w with cluster }
  return reply

/-- Answers a request: incidents strike first, with `act` taking their steps. -/
def send (act : Step → Sim Outcome) (r : Request) : Sim Reply := do
  let incidents ← strike r
  incidents.forM fun i => i.act.forM fun step => do
    let outcome ← act step
    note (.action step outcome)
  let reply ← match incidents.findSome? (·.reply) with
    | some reply => pure reply
    | none => cluster r
  note (.traffic r reply)
  return reply

/-- Waits, unless a token is tripped. -/
def pause (token : Token) (span : Millis) : Sim Bool := do
  let w ← get
  if w.tripped.contains token then return true
  else
    set { w with clock := w.clock + span }
    return false

/-- Answers a cluster call of work that has a token. -/
def clusterOp (act : Step → Sim Outcome) (token : Token) : (op : ClusterOp) → Sim op.Answer
  | .send r => send act r
  | .pause span => pause token span

/-- The store that is open. -/
def openedStore (w : World) : Option (Connection × Store) :=
  w.connection.bind fun c => (w.databases.get? c.key).map fun s => (c, s)

/-- Answers a store operation. -/
def storeOp (op : StoreOp) : Sim (Except StoreError op.Answer) := do
  let w ← get
  match openedStore w with
  | none => return op.unreachable
  | some (connection, s) =>
      if !connection.writes then return op.applyReadOnly s
      let (answer, s) := op.apply s
      set { w with databases := w.databases.insert connection.key s }
      return answer

/-- Answers a look into the register of workers. -/
def registerOp : (op : RegisterOp) → Sim op.Answer
  | .assign jobId => do
      let token ← freshToken
      modify fun w => { w with register := w.register.insert jobId token }
  | .token jobId => do
      match (← get).register.get? jobId with
      | some token => return token
      | none =>
          let token ← freshToken
          modify fun w => { w with register := w.register.insert jobId token }
          return token
  | .remove jobId => modify fun w => { w with register := w.register.erase jobId }
  | .trip jobId => do
      match (← get).register.get? jobId with
      | some token => trip token
      | none => pure ()

/-- The id of a job or task: those of the n-th submission that is accepted are numbered by it. -/
def freshId : Sim String := do
  let w ← get
  let number := w.submissions.length + 1
  set { w with issued := w.issued + 1 }
  return if w.issued = 0 then s!"<job-{number}>" else s!"<task-{number}-{w.issued - 1}>"

/-- Answers what a call of the service asks. -/
def serviceOp (act : Step → Sim Outcome) : (op : ServiceOp) → Sim op.Answer
  | .send r => send act r
  | .pause token span => pause token span
  | .store op => storeOp op
  | .register op => registerOp op
  | .freshId => freshId

/-- The label of an event. -/
def label : TaskEvent → String
  | .started task => s!"started {task.seqNum}"
  | .finished task _ => s!"finished {task.seqNum}"
  | .failed task error =>
      if error.isCancelled then s!"canceled {task.seqNum}" else s!"failed {task.seqNum}"

/-- Answers what a run asks. The labels of its events are collected, the last first, and the
observer fails at one of them. -/
def engineOp (act : Step → Sim Outcome) (token : Token) (fails : Option String) :
    (op : EngineOp) → StateT (List String) Sim op.Answer
  | .cluster op => clusterOp act token op
  | .report event => do
      modify (label event :: ·)
      if fails = some (label event) then return .error (.observer "refused") else return .ok ()

/-- Begins work that can be cancelled. -/
def begin (cancelled : Bool) : Sim Token := do
  let token ← freshToken
  modify fun w => { w with current := some token }
  if cancelled then trip token
  return token

/-- Does something, and tells how long it took. -/
def timed (work : Sim α) : Sim (α × Millis) := do
  let before := (← get).clock
  let value ← work
  return (value, (← get).clock - before)

end Sim
end ImageryJobs.Simulation
