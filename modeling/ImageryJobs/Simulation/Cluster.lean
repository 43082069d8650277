import ImageryJobs.Cluster.Naming
import ImageryJobs.Cluster.Request
import ImageryJobs.Cluster.Template.Image
import ImageryJobs.Text.Search

/-!
A cluster in memory. Objects move on whenever they are looked at: claims are bound, streams get a
repository, builds and batch jobs run and are complete after a number of looks. Failures, conflicts
and jobs that never end can be arranged.
-/

namespace ImageryJobs.Simulation

open Text (after? before? splitAt?)

/-- Something for each kind of object. -/
structure ByKind (α : Type) where
  volume : α
  imageStream : α
  build : α
  config : α
  batchJob : α
  deriving DecidableEq

namespace ByKind

def const (x : α) : ByKind α := ⟨x, x, x, x, x⟩

def get (d : ByKind α) : ResourceKind → α
  | .volume => d.volume
  | .imageStream => d.imageStream
  | .build => d.build
  | .config => d.config
  | .batchJob => d.batchJob

def set (d : ByKind α) (kind : ResourceKind) (x : α) : ByKind α :=
  match kind with
  | .volume => { d with volume := x }
  | .imageStream => { d with imageStream := x }
  | .build => { d with build := x }
  | .config => { d with config := x }
  | .batchJob => { d with batchJob := x }

@[simp] theorem get_set (d : ByKind α) (kind kind' : ResourceKind) (x : α) :
    (d.set kind x).get kind' = if kind' = kind then x else d.get kind' := by
  cases kind <;> cases kind' <;> rfl

def map (f : α → β) (d : ByKind α) : ByKind β :=
  ⟨f d.volume, f d.imageStream, f d.build, f d.config, f d.batchJob⟩

end ByKind

/-- An object and how often it was looked at. -/
structure StoredObject where
  document : Json
  looks : Nat
  deriving DecidableEq

/-- A cluster in memory. -/
structure SimulatedCluster where
  ns : String
  /-- The look at which a build or batch job is complete. -/
  looksToComplete : Nat
  objects : ByKind (Dict String StoredObject)
  pods : Dict String Json
  /-- What the pods of a process have written. -/
  logs : Dict String String
  /-- How many of the next creations are refused. -/
  conflicts : ByKind Nat
  /-- Processes whose batch jobs fail. -/
  failingJobs : List String
  /-- Processes whose builds fail. -/
  failingBuilds : List String
  /-- Processes whose batch jobs go on. -/
  heldJobs : List String
  unavailable : Bool
  /-- All requests, the last first. -/
  received : List Request

/-- What a path names. -/
inductive Route where
  | collection (kind : ResourceKind) (selector : Option (String × String))
  | object (kind : ResourceKind) (name : String)
  | pods (selector : Option (String × String))
  | pod (name : String)
  | podLog (name : String)
  | unknown
  deriving DecidableEq

/-- Sets a member of an object; null counts as an object without members. -/
def setMember (key : String) (value : Json) : Json → Json
  | .object members => .ofMembers ((Dict.ofList members).insert key value)
  | .null => .mk [(key, value)]
  | j => j

/-- Changes a member of an object; an absent member counts as null. -/
def changeMember (key : String) (f : Json → Json) (j : Json) : Json :=
  setMember key (f ((j.get? key).getD .null)) j

/-- The value of a label; empty where there is none. -/
def labelOf (key : String) (object : Json) : String :=
  ((object.path? ["metadata", "labels", key]).bind Json.string?).getD ""

/-- Whether an object has a label; no selector selects everything. -/
def selects (selector : Option (String × String)) (object : Json) : Bool :=
  match selector with
  | some (key, value) => labelOf key object = value
  | none => true

namespace Route

/-- The label and value of a selector in a query. -/
def selectorOf (query : List Char) : Option (String × String) := do
  let encoded ← after? "labelSelector=" query
  let decoded ← Text.Percent.decode? (String.ofList encoded)
  let (key, value) ← splitAt? '=' decoded.toList
  return (String.ofList key, String.ofList value)

/-- What a path without query names within one collection. -/
def within (kind : ResourceKind) (ns : String) (path : List Char)
    (selector : Option (String × String)) : Option Route :=
  let collection := kind.collectionPath ns
  if path = collection.toList then some (.collection kind selector)
  else match after? (collection ++ "/") path with
    | some name => if name.contains '/' then none else some (.object kind (String.ofList name))
    | none => none

/-- What a path names in a namespace. -/
def ofPath (ns path : String) : Route :=
  let (path, selector) := match splitAt? '?' path.toList with
    | some (path, query) => (path, selectorOf query)
    | none => (path.toList, none)
  if path = (podsPath ns).toList then .pods selector
  else match after? (podsPath ns ++ "/") path with
    | some rest =>
        match before? "/log" rest with
        | some name => .podLog (String.ofList name)
        | none => .pod (String.ofList rest)
    | none => (ResourceKind.all.findSome? fun kind => within kind ns path selector).getD .unknown

end Route

namespace SimulatedCluster

/-- A cluster without objects. -/
def empty (ns : String) (looksToComplete : Nat) : SimulatedCluster where
  ns := ns
  looksToComplete := looksToComplete
  objects := .const ∅
  pods := ∅
  logs := ∅
  conflicts := .const 0
  failingJobs := []
  failingBuilds := []
  heldJobs := []
  unavailable := false
  received := []

/-! ## Arrangements -/

/-- Refuses the next creations of a kind. -/
def injectConflicts (c : SimulatedCluster) (kind : ResourceKind) (count : Nat) : SimulatedCluster :=
  { c with conflicts := c.conflicts.set kind count }

def failProcess (c : SimulatedCluster) (processId : String) : SimulatedCluster :=
  { c with failingJobs := sanitizeName processId :: c.failingJobs }

def failBuild (c : SimulatedCluster) (processId : String) : SimulatedCluster :=
  { c with failingBuilds := sanitizeName processId :: c.failingBuilds }

def holdProcess (c : SimulatedCluster) (processId : String) : SimulatedCluster :=
  { c with heldJobs := sanitizeName processId :: c.heldJobs }

def releaseProcess (c : SimulatedCluster) (processId : String) : SimulatedCluster :=
  { c with heldJobs := c.heldJobs.filter (· ≠ sanitizeName processId) }

def setLogs (c : SimulatedCluster) (processId text : String) : SimulatedCluster :=
  { c with logs := c.logs.insert (sanitizeName processId) text }

/-- Puts an object under its name, in place of an earlier one. -/
def putObject (c : SimulatedCluster) (kind : ResourceKind) (name : String) (object : StoredObject) :
    SimulatedCluster :=
  { c with objects := c.objects.set kind ((c.objects.get kind).insert name object) }

/-- Stores an object that was not created by a request. -/
def insertObject (c : SimulatedCluster) (kind : ResourceKind) (document : Json) :
    SimulatedCluster :=
  c.putObject kind ((Template.nameOf document).getD "") ⟨document, 0⟩

/-- The repository of a stream. -/
def repository (c : SimulatedCluster) (stream : String) : String :=
  s!"image-registry.local:5000/{c.ns}/{stream}"

/-- The tags of a stream whose latest tag names an image. -/
def tagsOf (image : String) : Json :=
  .array [.mk [("tag", .string latestTag),
    ("items", .array [.mk [("image", .string ("sha256:" ++ image))]])]]

/-- Stores the stream of a process with an image in it. -/
def seedImage (c : SimulatedCluster) (processId : String) : SimulatedCluster :=
  let name := sanitizeName processId
  c.insertObject .imageStream <| .mk [("metadata", .mk [("name", .string name)]),
    ("status", .mk [("dockerImageRepository", .string (c.repository name)),
      ("tags", tagsOf "seeded")])]

/-! ## Views -/

def objectNames (c : SimulatedCluster) (kind : ResourceKind) : List String :=
  (c.objects.get kind).keys

def document? (c : SimulatedCluster) (kind : ResourceKind) (name : String) : Option Json :=
  ((c.objects.get kind).get? name).map (·.document)

/-- The requests in the order of their arrival. -/
def requests (c : SimulatedCluster) : List Request := c.received.reverse

/-- The number of requests of a verb whose path begins with a kind's collection. -/
def countRequests (c : SimulatedCluster) (verb : Verb) (kind : ResourceKind) : Nat :=
  (c.received.filter fun r =>
    r.verb = verb && (after? (kind.collectionPath c.ns) r.path.toList).isSome).length

/-! ## Requests -/

/-- A refusal. -/
def refuse (code : Nat) (reason : String) : Reply :=
  .error (.api code (Json.mk [("kind", .string "Status"), ("reason", .string reason)]).render)

def notFound : Reply := refuse 404 "NotFound"

/-- The label that ties a pod to its build or batch job, and what is added to its owner's name. -/
def podOwner? : ResourceKind → Option (String × String)
  | .build => some (buildPodLabel, "-build")
  | .batchJob => some (batchPodLabel, "-pod")
  | _ => none

/-- A new pod. -/
def newPod (name ownerLabel owner processName : String) : Json :=
  .mk [("metadata", .mk [("name", .string name),
      ("labels", .mk [(ownerLabel, .string owner), (processLabel, .string processName)])]),
    ("status", .mk [("phase", .string "Pending")])]

/-- The status that a new object gets. -/
def initialStatus : ResourceKind → Option Json
  | .volume => some (.mk [("phase", .string "Pending")])
  | .build => some (.mk [("phase", .string "New")])
  | .batchJob => some (.mk [])
  | .imageStream | .config => none

/-- A document as it is stored when it is created. -/
def initialDocument (kind : ResourceKind) (document : Json) : Json :=
  match initialStatus kind with
  | some status => setMember "status" status document
  | none => document

/-- Starts the pod of a new object. -/
def startPod (c : SimulatedCluster) (kind : ResourceKind) (name processName : String) :
    SimulatedCluster :=
  match podOwner? kind with
  | none => c
  | some (ownerLabel, ending) =>
      let pod := name ++ ending
      { c with pods := c.pods.insert pod (newPod pod ownerLabel name processName) }

/-- Creates an object. -/
def create (c : SimulatedCluster) (kind : ResourceKind) (body : Option Json) :
    Reply × SimulatedCluster :=
  if 0 < c.conflicts.get kind then
    (refuse 409 "AlreadyExists",
      { c with conflicts := c.conflicts.set kind (c.conflicts.get kind - 1) })
  else match body with
    | none => (refuse 400 "missing body", c)
    | some document =>
        match Template.nameOf document with
        | none => (refuse 422 "metadata.name is required", c)
        | some name =>
            if (c.objects.get kind).contains name then (refuse 409 "AlreadyExists", c)
            else
              let created := initialDocument kind document
              (.ok (.json created),
                (c.startPod kind name (labelOf processLabel document)).putObject kind name
                  ⟨created, 0⟩)

/-- Changes the phase of a pod, if it is there, and the reason where there is one. -/
def setPodPhase (c : SimulatedCluster) (pod phase : String) (reason : Option String) :
    SimulatedCluster :=
  { c with pods := c.pods.modify pod fun p =>
      changeMember "status" (fun status =>
        let status := setMember "phase" (.string phase) status
        match reason with
        | some reason => setMember "reason" (.string reason) status
        | none => status) p }

/-- Puts the image of a complete build into its stream, if the stream is there. -/
def pushImage (c : SimulatedCluster) (stream build : String) : SimulatedCluster :=
  match (c.objects.get .imageStream).get? stream with
  | none => c
  | some object => c.putObject .imageStream stream { object with
      document := changeMember "status" (setMember "tags" (tagsOf build)) object.document }

/-- The stream that a build pushes to. -/
def targetOf (build : Json) : Option String :=
  (Template.textAt build ["spec", "output", "to", "name"]).map fun target =>
    String.ofList (target.toList.takeWhile (· ≠ ':'))

/-- A build at a look. -/
def observeBuild (c : SimulatedCluster) (name : String) (object : StoredObject) (done : Bool) :
    SimulatedCluster :=
  let failing := c.failingBuilds.contains (labelOf processLabel object.document)
  let (phase, podPhase) := match done, failing with
    | false, _ => ("Running", "Running")
    | true, false => ("Complete", "Succeeded")
    | true, true => ("Failed", "Failed")
  let c := c.putObject .build name { object with
    document := setMember "status" (.mk [("phase", .string phase)]) object.document }
  let c := c.setPodPhase (name ++ "-build") podPhase
    (if done && failing then some "DockerBuildFailed" else none)
  match done && !failing, targetOf object.document with
  | true, some stream => c.pushImage stream name
  | _, _ => c

/-- The status of a batch job whose last pod failed. -/
def failedStatus : Json :=
  .mk [("failed", .ofNat 1), ("conditions", .array [.mk [("type", .string "Failed"),
    ("reason", .string "BackoffLimitExceeded"),
    ("message", .string "Job has reached the specified backoff limit")]])]

/-- A batch job at a look. -/
def observeBatch (c : SimulatedCluster) (name : String) (object : StoredObject) (done : Bool) :
    SimulatedCluster :=
  let processName := labelOf processLabel object.document
  let ended := done && !c.heldJobs.contains processName
  let (status, podPhase) := match ended, c.failingJobs.contains processName with
    | false, _ => (Json.mk [("active", .ofNat 1)], "Running")
    | true, false => (.mk [("succeeded", .ofNat 1)], "Succeeded")
    | true, true => (failedStatus, "Failed")
  let c := c.putObject .batchJob name { object with
    document := setMember "status" status object.document }
  c.setPodPhase (name ++ "-pod") podPhase none

/-- A stream at a look: it is given a repository if it has none. -/
def observeStream (c : SimulatedCluster) (name : String) (object : StoredObject) :
    SimulatedCluster :=
  if (object.document.path? ["status", "dockerImageRepository"]).isSome then
    c.putObject .imageStream name object
  else c.putObject .imageStream name { object with
    document := changeMember "status"
      (setMember "dockerImageRepository" (.string (c.repository name))) object.document }

/-- Looks at an object, which moves it on. -/
def observe (c : SimulatedCluster) (kind : ResourceKind) (name : String) :
    Reply × SimulatedCluster :=
  match (c.objects.get kind).get? name with
  | none => (notFound, c)
  | some object =>
      let object := { object with looks := object.looks + 1 }
      let done : Bool := c.looksToComplete ≤ object.looks
      let c := match kind with
        | .volume => c.putObject .volume name { object with
            document := setMember "status" (.mk [("phase", .string "Bound")]) object.document }
        | .imageStream => c.observeStream name object
        | .config => c.putObject .config name object
        | .build => c.observeBuild name object done
        | .batchJob => c.observeBatch name object done
      (.ok (.json ((c.document? kind name).getD .null)), c)

/-- Removes an object and its pods. -/
def remove (c : SimulatedCluster) (kind : ResourceKind) (name : String) :
    Reply × SimulatedCluster :=
  if (c.objects.get kind).contains name then
    let c := { c with objects := c.objects.set kind ((c.objects.get kind).erase name) }
    let c := match podOwner? kind with
      | some (ownerLabel, _) =>
          { c with pods := c.pods.filter fun _ pod => labelOf ownerLabel pod ≠ name }
      | none => c
    (.ok (.json (.mk [("kind", .string "Status"), ("status", .string "Success")])), c)
  else (notFound, c)

/-- What a pod has written. -/
def podLogs (c : SimulatedCluster) (pod : String) : Reply :=
  match c.pods.get? pod with
  | none => notFound
  | some p => .ok (.text ((c.logs.get? (labelOf processLabel p)).getD
      s!"[{pod}] processing done\n"))

/-- A list of objects as an answer. -/
def listing (kind : String) (objects : List Json) (selector : Option (String × String)) : Reply :=
  .ok (.json (.mk [("kind", .string kind), ("items", .array (objects.filter (selects selector)))]))

/-- The answer of the metrics service. -/
def metricsReply (r : Request) : Reply :=
  let point (time : Nat) (value : Json.Number) : Json :=
    .mk [("timestamp", .ofNat time), ("value", .number value)]
  match r.verb, after? "/gauges/data" r.path.toList with
  | .get, some _ => .ok (.json (.array
      [point 1500000000000 (.float ⟨0x3FE0000000000000⟩),
        point 1500000060000 (.float ⟨0x3FE8000000000000⟩)]))
  | _, _ => notFound

/-- The answer of the control plane. -/
def controlReply (c : SimulatedCluster) (r : Request) : Reply × SimulatedCluster :=
  match r.verb, Route.ofPath c.ns r.path with
  | .post, .collection kind _ => c.create kind r.body
  | .get, .collection kind selector =>
      (listing "List" ((c.objects.get kind).values.map (·.document)) selector, c)
  | .get, .object kind name => c.observe kind name
  | .delete, .object kind name => c.remove kind name
  | .get, .pods selector => (listing "PodList" c.pods.values selector, c)
  | .get, .pod name =>
      (match c.pods.get? name with
        | some pod => .ok (.json pod)
        | none => notFound, c)
  | .delete, .pod name =>
      if c.pods.contains name then (.ok .empty, { c with pods := c.pods.erase name })
      else (notFound, c)
  | .get, .podLog name => (c.podLogs name, c)
  | _, _ => (notFound, c)

/-- Answers a request. -/
def answer (c : SimulatedCluster) (r : Request) : Reply × SimulatedCluster :=
  let c := { c with received := r :: c.received }
  if c.unavailable then (.error (.transport "connection refused"), c)
  else match r.api with
    | .metrics => (metricsReply r, c)
    | .controlPlane => c.controlReply r

end SimulatedCluster
end ImageryJobs.Simulation
