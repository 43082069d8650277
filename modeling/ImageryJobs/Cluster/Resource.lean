import ImageryJobs.Cluster.Template.Basic
import ImageryJobs.Cluster.Watch

/-!
The life of one cluster object: created from its template, watched until it is ready, deleted. An
object that stands in the way is replaced once, except that a shared one is taken over.
-/

namespace ImageryJobs

/-- How far an object has come. -/
inductive ResourceStatus where
  /-- Nothing was sent yet. -/
  | initialized
  /-- The cluster has the object. -/
  | created
  | pending
  | running
  | finished
  | error
  deriving DecidableEq

def ResourceStatus.name : ResourceStatus → String
  | .initialized => "initialized"
  | .created => "created"
  | .pending => "pending"
  | .running => "running"
  | .finished => "finished"
  | .error => "error"

/-- A template and what is known of its object. -/
structure Resource where
  template : Template
  /-- The path of the collection, once the object was created there. -/
  collection : String
  /-- The path of the object while it exists. -/
  object : Option String
  /-- The name of its pod, once known. -/
  pod : Option String
  status : ResourceStatus
  /-- The object as the look that decided saw it. -/
  observed : Option Json

/-- Work on a resource, which may fail. What became known of the resource stays known then. -/
abbrev Managing (ε : Type) := ExceptT ε (StateT Resource ClusterScript)

/-- Makes calls part of work on a resource. -/
def Managing.ofCall (wrap : ClusterError → ε) (call : Calling α) : Managing ε α :=
  ExceptT.mk do
    let result ← (call.run : ClusterScript (Except ClusterError α))
    return result.mapError wrap

namespace Resource

def ofTemplate (t : Template) : Resource := ⟨t, "", none, none, .initialized, none⟩

def kind (r : Resource) : ResourceKind := r.template.kind

def name (r : Resource) : String := r.template.name

/-- The path of the object in a namespace. -/
def path (ns : String) (r : Resource) : String := r.kind.instancePath ns r.name

def withStatus (status : ResourceStatus) (r : Resource) : Resource := { r with status }

/-- Looks up the pod of the object and remembers its name. -/
def findPod (ns : String) : Managing ClusterError (Option Json) := do
  match (← get).template.podSelector with
  | none => return none
  | some selector =>
      let pods ← Managing.ofCall id (Calling.list (podsPath ns) selector)
      match pods.head?.bind Template.nameOf with
      | some name => modify fun r => { r with pod := some name }
      | none => pure ()
      return pods.head?

/-- Removes the object, and its pods one after the other. -/
def removeAll (ns : String) (r : Resource) : Calling Unit := do
  Calling.remove (r.path ns)
  match r.template.podSelector with
  | none => return
  | some selector =>
      let pods ← Calling.list (podsPath ns) selector
      (pods.filterMap Template.nameOf).forM fun name => Calling.remove (podPath ns name)

/-- Fails, with the object counted as failed. -/
def fail (e : LifecycleError) : Managing LifecycleError α := do
  modify (withStatus .error)
  throw e

/-- One look at the object; a value if it is ready. -/
def look (ns : String) : Managing LifecycleError (Option Json) := do
  let r ← get
  match ← (ClusterScript.send (.get (r.path ns)) : ClusterScript Reply) with
  | .error e => fail (.cluster e)
  | .ok document =>
      let object ← Managing.ofCall .cluster (Calling.json document)
      let pod ← ExceptT.adapt LifecycleError.cluster (findPod ns)
      match r.template.readiness object pod with
      | .ready =>
          modify fun r => { r with status := .finished, observed := some object }
          return some object
      | .failed reason =>
          modify fun r => { r with status := .error, observed := some object }
          throw (.failed r.kind r.name reason)
      | .pending =>
          modify (withStatus .pending)
          return none
      | .running =>
          modify (withStatus .running)
          return none

/-- Waits until the object is ready, and gives the object. -/
def waitReady (ns : String) (w : Watch) : Managing LifecycleError Json := do
  let r ← get
  w.guarded (look ns) (throw (.cancelled r.kind r.name))
    (fail (.watchTimeout r.kind r.name w.timeout))

/-- Waits until the object is gone. -/
def waitGone (ns : String) (w : Watch) (r : Resource) : ExceptT LifecycleError ClusterScript Unit :=
  let gone : ExceptT LifecycleError ClusterScript (Option Unit) := do
    match ← (ClusterScript.send (.get (r.path ns)) : ClusterScript Reply) with
    | .ok _ => return none
    | .error e => if e.isNotFound then return some () else throw (.cluster e)
  w.guarded gone (throw (.cancelled r.kind r.name))
    (throw (.watchTimeout r.kind r.name w.timeout))

/-- Removes an object that stands in the way, waits until it is gone and creates it anew. -/
def replace (ns : String) (w : Watch) : Managing LifecycleError Unit := do
  let r ← get
  Managing.ofCall .cluster (r.removeAll ns)
  ExceptT.mk ((r.waitGone ns w).run : ClusterScript _)
  match ← (ClusterScript.send (.post (r.kind.collectionPath ns) r.template.document) :
      ClusterScript Reply) with
  | .ok _ => return
  | .error e => fail (if e.isConflict then .conflict r.kind r.name else .cluster e)

/-- Creates the object. -/
def submit (ns : String) (w : Watch) : Managing LifecycleError Unit := do
  let r ← get
  match ← (ClusterScript.send (.post (r.kind.collectionPath ns) r.template.document) :
      ClusterScript Reply) with
  | .ok _ => return
  | .error e =>
      if !e.isConflict then fail (.cluster e)
      else if r.template.shared then return
      else replace ns w

/-- Creates the object and, if asked to, waits until it is ready. -/
def create (ns : String) (watch : Bool) (w : Watch) : Managing LifecycleError Unit := do
  submit ns w
  modify fun r => { r with
    collection := r.kind.collectionPath ns
    object := some (r.path ns)
    pod := none
    status := .created }
  if watch then
    let _ ← waitReady ns w

/-- Deletes the object and its pods. -/
def delete (ns : String) : Managing LifecycleError Unit := do
  let r ← get
  Managing.ofCall .cluster (r.removeAll ns)
  modify fun r => { r with object := none }

/-- The object as it is, if it exists. -/
def fetch (ns : String) (r : Resource) : Calling (Option Json) :=
  Calling.orMissing (do
    let document ← Calling.send (.get (r.path ns))
    return some (← Calling.json document)) none

/-- What the object's pod has written, if there is one. -/
def logs (ns : String) : Managing ClusterError (Option String) := do
  if (← get).pod.isNone then
    let _ ← findPod ns
  match (← get).pod with
  | none => return none
  | some pod =>
      Managing.ofCall id <| Calling.orMissing (do
        let document ← Calling.send (.get (podLogPath ns pod))
        return some document.toText) none

/-- The path of one series of a pod's metrics. -/
def metricsPath (series pod : String) : String :=
  "/gauges/data?tags=descriptor_name:" ++ Text.Percent.encode series ++
    ",pod_name:" ++ Text.Percent.encode pod

/-- The metrics of the pod by series; those without data are left out. -/
def metrics (series : List String) (r : Resource) : Calling (Dict String Json) :=
  match r.pod with
  | none => return ∅
  | some pod =>
      series.foldlM (fun found name => do
        let document ← Calling.send ⟨.metrics, .get, metricsPath name pod, none⟩
        let data ← Calling.json document
        return if data.isNull then found else found.insert name data) ∅

end Resource
end ImageryJobs
