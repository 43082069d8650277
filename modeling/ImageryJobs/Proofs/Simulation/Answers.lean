import ImageryJobs.Proofs.Cluster.Contracts
import ImageryJobs.Proofs.Simulation.Documents
import ImageryJobs.Proofs.Simulation.Routes

/-!
What answers of a simulated cluster do to its contents. Whatever is arranged, a request is refused
and changes nothing, or it is told something and changes nothing, or it creates, moves on or removes
the one object that its path names.
-/

namespace ImageryJobs

namespace Dict

universe u v

variable {κ : Type u} {α : Type v} [LT κ]

theorem get?_filter_imp [DecidableLT κ] [LE κ] [Std.IsLinearOrder κ] [Std.LawfulOrderLT κ]
    [DecidableEq κ] {d : Dict κ α} {p : κ → α → Bool} {k : κ} {v : α}
    (h : (d.filter p).get? k = some v) : d.get? k = some v ∧ p k v = true := by
  rw [get?_eq_some_iff] at h ⊢
  exact List.mem_filter.1 h

theorem get?_modify [DecidableEq κ] (d : Dict κ α) (k k' : κ) (f : α → α) :
    (d.modify k f).get? k' = (d.get? k').map fun v => if k' = k then f v else v := by
  rw [modify, get?_map]

theorem mem_values [DecidableLT κ] [LE κ] [Std.IsLinearOrder κ] [Std.LawfulOrderLT κ]
    [DecidableEq κ] {d : Dict κ α} {v : α} : v ∈ d.values ↔ ∃ k, d.get? k = some v := by
  rw [values, List.mem_map]
  constructor
  · intro h
    obtain ⟨⟨k, v⟩, hm, rfl⟩ := h
    exact ⟨k, get?_eq_some_iff.2 hm⟩
  · intro h
    obtain ⟨k, hk⟩ := h
    exact ⟨(k, v), get?_eq_some_iff.1 hk, rfl⟩

end Dict

namespace Simulation

open SimulatedCluster (podOwner? newPod initialDocument listing)

/-- Two clusters hold the same, whatever is arranged. -/
structure SameContents (c c' : SimulatedCluster) : Prop where
  ns : c'.ns = c.ns
  objects : c'.objects = c.objects
  pods : c'.pods = c.pods

theorem SameContents.refl (c : SimulatedCluster) : SameContents c c := ⟨rfl, rfl, rfl⟩

theorem SameContents.trans {c c' c'' : SimulatedCluster} (h : SameContents c c')
    (h' : SameContents c' c'') : SameContents c c'' :=
  ⟨h'.ns.trans h.ns, h'.objects.trans h.objects, h'.pods.trans h.pods⟩

/-- The pods once the pod of a new object has begun. -/
def podsWith (pods : Dict String Json) (kind : ResourceKind) (name processName : String) :
    Dict String Json :=
  match podOwner? kind with
  | none => pods
  | some (ownerLabel, ending) =>
      pods.insert (name ++ ending) (newPod (name ++ ending) ownerLabel name processName)

/-- The pods without those of an object. -/
def podsWithout (pods : Dict String Json) (kind : ResourceKind) (name : String) : Dict String Json :=
  match podOwner? kind with
  | none => pods
  | some (ownerLabel, _) => pods.filter fun _ pod => labelOf ownerLabel pod ≠ name

/-- If a path names an object, the object is not there. -/
def Absent (path : String) (c : SimulatedCluster) : Prop :=
  ∀ kind name, Route.ofPath c.ns path = .object kind name → (c.objects.get kind).get? name = none

/-- What an answer tells and what it does, as far as the contents of the cluster go. -/
inductive Answered (c : SimulatedCluster) (r : Request) : Reply → SimulatedCluster → Prop where
  | refused {e : ClusterError} {c' : SimulatedCluster} (same : SameContents c c')
      (missing : r.api = .controlPlane → r.verb = .delete → e.isNotFound = true →
        Absent r.path c) : Answered c r (.error e) c'
  | told {document : Document} {c' : SimulatedCluster} (same : SameContents c c')
      (read : r.verb = .get) (route : r.api = .controlPlane →
        (∃ kind selector, Route.ofPath c.ns r.path = .collection kind selector) ∨
        ∃ name, Route.ofPath c.ns r.path = .pod name ∨ Route.ofPath c.ns r.path = .podLog name) :
      Answered c r (.ok document) c'
  | listed {c' : SimulatedCluster} (selector : Option (String × String)) (read : r.verb = .get)
      (route : Route.ofPath c.ns r.path = .pods selector) (same : SameContents c c') :
      Answered c r (listing "PodList" c.pods.values selector) c'
  | created {document : Document} {c' : SimulatedCluster} (kind : ResourceKind)
      (selector : Option (String × String)) (body : Json) (name processName : String)
      (post : r.verb = .post) (route : Route.ofPath c.ns r.path = .collection kind selector)
      (given : r.body = some body) (named : Template.nameOf body = some name)
      (absent : (c.objects.get kind).get? name = none) (ns : c'.ns = c.ns)
      (objects : c'.objects = c.objects.set kind
        ((c.objects.get kind).insert name ⟨initialDocument kind body, 0⟩))
      (pods : c'.pods = podsWith c.pods kind name processName) : Answered c r (.ok document) c'
  | observed {c₀ : SimulatedCluster} (kind : ResourceKind) (name : String) (object : StoredObject)
      (read : r.verb = .get) (plane : r.api = .controlPlane) (route : Route.ofPath c.ns r.path = .object kind name)
      (there : (c.objects.get kind).get? name = some object) (same : SameContents c c₀) :
      Answered c r (c₀.observe kind name).1 (c₀.observe kind name).2
  | removed {document : Document} {c' : SimulatedCluster} (kind : ResourceKind) (name : String)
      (delete : r.verb = .delete) (route : Route.ofPath c.ns r.path = .object kind name)
      (ns : c'.ns = c.ns)
      (objects : c'.objects = c.objects.set kind ((c.objects.get kind).erase name))
      (pods : c'.pods = podsWithout c.pods kind name) : Answered c r (.ok document) c'
  | erased {document : Document} {c' : SimulatedCluster} (name : String) (delete : r.verb = .delete)
      (route : Route.ofPath c.ns r.path = .pod name) (ns : c'.ns = c.ns)
      (objects : c'.objects = c.objects) (pods : c'.pods = c.pods.erase name) :
      Answered c r (.ok document) c'

section

variable {c c₀ : SimulatedCluster} {r : Request}

theorem answered_refused {e : ClusterError} {c' : SimulatedCluster} (same : SameContents c c')
    (other : r.verb ≠ .delete) : Answered c r (.error e) c' :=
  .refused same fun _ delete => absurd delete other

theorem answered_create {kind : ResourceKind} {selector : Option (String × String)}
    (same : SameContents c c₀) (post : r.verb = .post)
    (route : Route.ofPath c.ns r.path = .collection kind selector) :
    Answered c r (c₀.create kind r.body).1 (c₀.create kind r.body).2 := by
  have other : r.verb ≠ .delete := by simp [post]
  unfold SimulatedCluster.create
  split
  · exact answered_refused (same.trans ⟨rfl, rfl, rfl⟩) other
  · cases hb : r.body with
    | none => exact answered_refused same other
    | some body =>
        dsimp only
        cases hn : Template.nameOf body with
        | none => exact answered_refused same other
        | some name =>
            dsimp only
            split
            · exact answered_refused same other
            · rename_i absent
              rw [Dict.contains, Option.not_isSome_iff_eq_none, same.objects] at absent
              refine .created kind selector body name (labelOf processLabel body) post route hb hn
                absent ?_ ?_ ?_
              · rw [← same.ns, SimulatedCluster.startPod]
                split <;> rfl
              · rw [← same.objects, SimulatedCluster.startPod]
                split <;> rfl
              · rw [← same.pods, SimulatedCluster.startPod, podsWith]
                cases podOwner? kind <;> rfl

theorem answered_remove {kind : ResourceKind} {name : String} (same : SameContents c c₀)
    (delete : r.verb = .delete) (route : Route.ofPath c.ns r.path = .object kind name) :
    Answered c r (c₀.remove kind name).1 (c₀.remove kind name).2 := by
  unfold SimulatedCluster.remove
  split
  · refine .removed kind name delete route ?_ ?_ ?_
    · rw [← same.ns]
      dsimp only
      split <;> rfl
    · rw [← same.objects]
      dsimp only
      split <;> rfl
    · rw [← same.pods, podsWithout]
      dsimp only
      split <;> rename_i hp <;> simp only [hp]
  · rename_i absent
    refine .refused same fun _ _ _ kind' name' route' => ?_
    cases route.symm.trans route'
    rwa [Dict.contains, Option.not_isSome_iff_eq_none, same.objects] at absent

theorem answered_observe {kind : ResourceKind} {name : String} (same : SameContents c c₀)
    (read : r.verb = .get) (plane : r.api = .controlPlane)
    (route : Route.ofPath c.ns r.path = .object kind name) :
    Answered c r (c₀.observe kind name).1 (c₀.observe kind name).2 := by
  cases there : (c₀.objects.get kind).get? name with
  | some object =>
      rw [same.objects] at there
      exact .observed kind name object read plane route there same
  | none =>
      simp only [SimulatedCluster.observe, there]
      exact answered_refused same (by simp [read])

theorem answered_get (same : SameContents c c₀) (plane : r.api = .controlPlane)
    (read : r.verb = .get) : Answered c r (c₀.controlReply r).1 (c₀.controlReply r).2 := by
  have other : r.verb ≠ .delete := by simp [read]
  unfold SimulatedCluster.controlReply
  simp only [read, same.ns]
  cases route : Route.ofPath c.ns r.path with
  | object kind name => exact answered_observe same read plane route
  | pods selector =>
      rw [same.pods]
      exact .listed selector read route same
  | collection kind selector => exact .told same read fun _ => .inl ⟨kind, selector, route⟩
  | pod name =>
      dsimp only
      cases c₀.pods.get? name with
      | none => exact answered_refused same other
      | some pod => exact .told same read fun _ => .inr ⟨name, .inl route⟩
  | podLog name =>
      simp only [SimulatedCluster.podLogs]
      cases c₀.pods.get? name with
      | none => exact answered_refused same other
      | some pod => exact .told same read fun _ => .inr ⟨name, .inr route⟩
  | unknown => exact answered_refused same other

theorem answered_delete (same : SameContents c c₀) (delete : r.verb = .delete) :
    Answered c r (c₀.controlReply r).1 (c₀.controlReply r).2 := by
  unfold SimulatedCluster.controlReply
  simp only [delete, same.ns]
  cases route : Route.ofPath c.ns r.path with
  | object kind name => exact answered_remove same delete route
  | pod name =>
      dsimp only
      split
      · exact .erased name delete route rfl same.objects (by rw [← same.pods])
      · exact .refused same fun _ _ _ kind' name' h => by cases route.symm.trans h
  | pods _ | collection _ _ | podLog _ | unknown =>
      exact .refused same fun _ _ _ kind name h => by cases route.symm.trans h

theorem answered_post (same : SameContents c c₀) (post : r.verb = .post) :
    Answered c r (c₀.controlReply r).1 (c₀.controlReply r).2 := by
  have other : r.verb ≠ .delete := by simp [post]
  unfold SimulatedCluster.controlReply
  simp only [post, same.ns]
  cases route : Route.ofPath c.ns r.path with
  | collection kind selector => exact answered_create same post route
  | object _ _ | pods _ | pod _ | podLog _ | unknown => exact answered_refused same other

/-- Every answer is one of these. -/
theorem answered (same : SameContents c c₀) :
    Answered c r (c₀.answer r).1 (c₀.answer r).2 := by
  have later : SameContents c { c₀ with received := r :: c₀.received } :=
    same.trans ⟨rfl, rfl, rfl⟩
  unfold SimulatedCluster.answer
  dsimp only
  split
  · exact .refused later fun _ _ lost => by cases lost
  · cases api : r.api with
    | controlPlane =>
        cases verb : r.verb with
        | get => exact answered_get later api verb
        | post => exact answered_post later verb
        | delete => exact answered_delete later verb
    | metrics =>
        dsimp only
        cases verb : r.verb with
        | get =>
            cases hm : SimulatedCluster.metricsReply r with
            | error e => exact answered_refused later (by simp [verb])
            | ok document => exact .told later verb fun h => by cases api.symm.trans h
        | post | delete =>
            simp only [SimulatedCluster.metricsReply, verb]
            exact .refused later fun plane => by cases api.symm.trans plane

end

theorem Answered.looked {c c' : SimulatedCluster} {path : String} {reply : Reply}
    {kind : ResourceKind} {name : String} (h : Answered c (.get path) reply c')
    (route : Route.ofPath c.ns path = .object kind name ∨ Route.ofPath c.ns path = .unknown) :
    (SameContents c c' ∧ ∃ e, reply = .error e) ∨
      ∃ object c₀, Route.ofPath c.ns path = .object kind name ∧
        (c.objects.get kind).get? name = some object ∧ SameContents c c₀ ∧
        reply = (c₀.observe kind name).1 ∧ c' = (c₀.observe kind name).2 := by
  cases h with
  | refused same => exact .inl ⟨same, _, rfl⟩
  | told same read other =>
      obtain ⟨_, _, h⟩ | ⟨_, h | h⟩ := other rfl <;>
        obtain route | route := route <;> cases route.symm.trans h
  | listed _ _ h => obtain route | route := route <;> cases route.symm.trans h
  | created _ _ _ _ _ post => cases post
  | observed kind' name' object _ _ h there same =>
      obtain route | route := route <;> cases route.symm.trans h
      exact .inr ⟨object, _, route, there, same, rfl, rfl⟩
  | removed _ _ delete => cases delete
  | erased _ delete => cases delete

theorem listed_listing (kind : String) (objects : List Json) (selector : Option (String × String)) :
    Calling.listed (listing kind objects selector) = .ok (objects.filter (selects selector)) := by
  simp [Calling.listed, listing, Document.toJson, Json.get?_mk, Dict.ofList, Json.items?, bind,
    Except.bind, pure, Except.pure]

/-- A listing of pods gives pods that are there. -/
theorem Answered.listedPods {c c' : SimulatedCluster} {path : String} {reply : Reply}
    {selector : Option (String × String)} (h : Answered c (.get path) reply c')
    (route : Route.ofPath c.ns path = .pods selector ∨ Route.ofPath c.ns path = .unknown) :
    SameContents c c' ∧ ∀ items, Calling.listed reply = .ok items → ∀ pod ∈ items,
      selects selector pod = true ∧ ∃ key, c.pods.get? key = some pod := by
  cases h with
  | refused same => exact ⟨same, nofun⟩
  | told same read other =>
      obtain ⟨_, _, h⟩ | ⟨_, h | h⟩ := other rfl <;>
        obtain route | route := route <;> cases route.symm.trans h
  | listed _ _ h same =>
      obtain route | route := route <;> cases route.symm.trans h
      refine ⟨same, fun items hl pod hp => ?_⟩
      cases (listed_listing _ _ _).symm.trans hl
      obtain ⟨hv, hs⟩ := List.mem_filter.1 hp
      exact ⟨hs, Dict.mem_values.1 hv⟩
  | created _ _ _ _ _ post => cases post
  | observed _ _ _ _ _ h => obtain route | route := route <;> cases route.symm.trans h
  | removed _ _ delete => cases delete
  | erased _ delete => cases delete

/-- What was created was not there, and is now, with its pod. -/
theorem Answered.posted {c c' : SimulatedCluster} {kind : ResourceKind} {name : String}
    {document : Json} {reply : Reply}
    (h : Answered c (.post (kind.collectionPath c.ns) document) reply c') (created : reply.isOk = true)
    (named : Template.nameOf document = some name) :
    ∃ processName, (c.objects.get kind).get? name = none ∧
      c'.objects = c.objects.set kind
        ((c.objects.get kind).insert name ⟨initialDocument kind document, 0⟩) ∧
      c'.pods = podsWith c.pods kind name processName := by
  cases h with
  | refused => cases created
  | told _ read => cases read
  | listed _ read => cases read
  | observed _ _ _ read => cases read
  | removed _ _ delete => cases delete
  | erased _ delete => cases delete
  | created kind' selector body name' processName post route given named' absent ns objects pods =>
      cases given
      cases named.symm.trans named'
      have path : Route.ofPath c.ns (kind.collectionPath c.ns) = .collection kind' selector := route
      have same : kind' = kind := by
        obtain route | route := Route.ofPath_or_unknown fun hns => Route.ofPath_collectionPath hns kind
        · cases route.symm.trans path
          rfl
        · cases route.symm.trans path
      subst same
      exact ⟨processName, absent, objects, pods⟩

/-- A look at what is not there tells nothing and changes nothing. -/
theorem Answered.missed {c c' : SimulatedCluster} {path : String} {reply : Reply}
    {kind : ResourceKind} {name : String} (h : Answered c (.get path) reply c')
    (route : Route.ofPath c.ns path = .object kind name ∨ Route.ofPath c.ns path = .unknown)
    (absent : Absent path c) : SameContents c c' ∧ ∃ e, reply = .error e := by
  obtain same | ⟨object, _, route, there, -⟩ := h.looked route
  · exact same
  · cases (absent kind name route).symm.trans there

/-- What was deleted, or was not found to be deleted, is not there. -/
theorem Answered.deleted {c c' : SimulatedCluster} {path : String} {reply : Reply}
    {kind : ResourceKind} {name : String} (h : Answered c (.delete path) reply c')
    (route : Route.ofPath c.ns path = .object kind name ∨ Route.ofPath c.ns path = .unknown)
    (gone : Calling.isGone reply = true) : Absent path c' := by
  intro kind' name' hr
  cases h with
  | refused same missing =>
      rw [same.ns] at hr
      rw [same.objects]
      exact missing rfl rfl gone kind' name' hr
  | removed kind'' name'' _ h ns objects =>
      rw [ns] at hr
      cases hr.symm.trans h
      rw [objects, ByKind.get_set, if_pos rfl, Dict.get?_erase, if_pos rfl]
  | erased _ _ h => obtain route | route := route <;> cases route.symm.trans h
  | told _ read => cases read
  | listed _ read => cases read
  | created _ _ _ _ _ post => cases post
  | observed _ _ _ read => cases read

/-- The deletion of a pod leaves objects alone. -/
theorem Answered.deletedPod {c c' : SimulatedCluster} {path : String} {reply : Reply}
    (h : Answered c (.delete path) reply c')
    (route : ∀ kind name, Route.ofPath c.ns path ≠ .object kind name) : c'.objects = c.objects := by
  cases h with
  | refused same => exact same.objects
  | erased _ _ _ _ objects => exact objects
  | removed kind name _ h => exact absurd h (route kind name)
  | told _ read => cases read
  | listed _ read => cases read
  | created _ _ _ _ _ post => cases post
  | observed _ _ _ read => cases read

theorem Absent.of_objects {c c' : SimulatedCluster} {path : String} (h : Absent path c)
    (ns : c'.ns = c.ns) (objects : c'.objects = c.objects) : Absent path c' := by
  rw [Absent, ns, objects]
  exact h

/-! ### Looks at objects -/

namespace SimulatedCluster

variable {c : SimulatedCluster} {kind kind' : ResourceKind} {name name' : String}
  {object : StoredObject}

@[simp] theorem ns_putObject : (c.putObject kind name object).ns = c.ns := rfl

@[simp] theorem pods_putObject : (c.putObject kind name object).pods = c.pods := rfl

theorem get?_putObject : ((c.putObject kind name object).objects.get kind').get? name' =
    if kind' = kind ∧ name' = name then some object else (c.objects.get kind').get? name' := by
  rw [putObject]
  by_cases hk : kind' = kind
  · subst hk
    simp
  · simp [hk]

@[simp] theorem objects_setPodPhase {pod phase : String} {reason : Option String} :
    (c.setPodPhase pod phase reason).objects = c.objects := rfl

/-- A stream's document once the stream was looked at. -/
def served (repository : String) (document : Json) : Json :=
  if (document.path? ["status", "dockerImageRepository"]).isSome then document
  else changeMember "status" (setMember "dockerImageRepository" (.string repository)) document

/-- A stream's document once a build has pushed to it. -/
def pushed (build : String) (document : Json) : Json :=
  changeMember "status" (setMember "tags" (tagsOf build)) document

/-- A look leaves a repository as it is, and whether there is an image. -/
theorem served_document {document : Json} (h : HasStatus document) (given : String) :
    HasStatus (served given document) ∧
      ImageStreamTemplate.isResolved (served given document) =
        ImageStreamTemplate.isResolved document ∧
      ∀ repository, ImageStreamTemplate.repository? document = some repository →
        ImageStreamTemplate.repository? (served given document) = some repository := by
  unfold served
  split
  · exact ⟨h, rfl, fun _ => id⟩
  · rename_i absent
    refine ⟨h.setStatus, ?_, fun repository hr => ?_⟩
    · simp only [ImageStreamTemplate.isResolved, path?_setStatus h]
      rfl
    · rw [Option.not_isSome_iff_eq_none] at absent
      simp [ImageStreamTemplate.repository?, Template.textAt, absent] at hr

/-- A build that pushes leaves the repository as it is. -/
theorem pushed_document {document : Json} (h : HasStatus document) (build : String) :
    HasStatus (pushed build document) ∧
      ImageStreamTemplate.repository? (pushed build document) =
        ImageStreamTemplate.repository? document := by
  refine ⟨h.setStatus, ?_⟩
  simp only [ImageStreamTemplate.repository?, Template.textAt, pushed, path?_setStatus h]
  rfl

theorem observe_volume (h : (c.objects.get .volume).get? name = some object) :
    c.observe .volume name =
      (.ok (.json (setMember "status" (phaseStatus "Bound") object.document)),
        c.putObject .volume name
          ⟨setMember "status" (phaseStatus "Bound") object.document, object.looks + 1⟩) := by
  simp [observe, h, document?, get?_putObject, phaseStatus]

theorem observe_config (h : (c.objects.get .config).get? name = some object) :
    c.observe .config name =
      (.ok (.json object.document), c.putObject .config name ⟨object.document, object.looks + 1⟩) := by
  simp [observe, h, document?, get?_putObject]

theorem observe_stream (h : (c.objects.get .imageStream).get? name = some object) :
    c.observe .imageStream name =
      (.ok (.json (served (c.repository name) object.document)), c.putObject .imageStream name
        ⟨served (c.repository name) object.document, object.looks + 1⟩) := by
  simp only [observe, h, observeStream, served]
  split <;> simp [document?, get?_putObject]

/-- The status of a batch job, and the phase of its pod, at a look. -/
def batchStatus (ended failing : Bool) : Json × String :=
  match ended, failing with
  | false, _ => (.mk [("active", .ofNat 1)], "Running")
  | true, false => (.mk [("succeeded", .ofNat 1)], "Succeeded")
  | true, true => (failedStatus, "Failed")

theorem observe_batch (h : (c.objects.get .batchJob).get? name = some object) :
    ∃ ended failing : Bool,
      ended = ((c.looksToComplete ≤ object.looks + 1 : Bool) &&
        !c.heldJobs.contains (labelOf processLabel object.document)) ∧
      failing = c.failingJobs.contains (labelOf processLabel object.document) ∧
      c.observe .batchJob name =
        (.ok (.json (setMember "status" (batchStatus ended failing).1 object.document)),
          (c.putObject .batchJob name
            ⟨setMember "status" (batchStatus ended failing).1 object.document,
              object.looks + 1⟩).setPodPhase (name ++ "-pod") (batchStatus ended failing).2 none) := by
  refine ⟨_, _, rfl, rfl, ?_⟩
  simp only [observe, h, observeBatch, document?, objects_setPodPhase, get?_putObject]
  rfl

/-- A build that was looked at, and its pod. -/
def withPhases (c : SimulatedCluster) (name : String) (object : StoredObject) (phase podPhase : String)
    (reason : Option String) : SimulatedCluster :=
  (c.putObject .build name ⟨setMember "status" (phaseStatus phase) object.document,
    object.looks + 1⟩).setPodPhase (name ++ "-build") podPhase reason

theorem objects_pushImage_of_ne {stream build : String} (h : kind ≠ .imageStream) :
    (c.pushImage stream build).objects.get kind = c.objects.get kind := by
  unfold pushImage
  split
  · rfl
  · simp [putObject, h]

section

variable (h : (c.objects.get .build).get? name = some object)
include h

theorem observe_build_running (early : ¬ c.looksToComplete ≤ object.looks + 1) :
    c.observe .build name =
      (.ok (.json (setMember "status" (phaseStatus "Running") object.document)),
        c.withPhases name object "Running" "Running" none) := by
  simp [observe, h, observeBuild, early, document?, get?_putObject, withPhases, phaseStatus]

theorem observe_build_failed (late : c.looksToComplete ≤ object.looks + 1)
    (failing : c.failingBuilds.contains (labelOf processLabel object.document) = true) :
    c.observe .build name =
      (.ok (.json (setMember "status" (phaseStatus "Failed") object.document)),
        c.withPhases name object "Failed" "Failed" (some "DockerBuildFailed")) := by
  simp only [observe, h, observeBuild, late, failing, decide_true]
  simp [document?, get?_putObject, withPhases, phaseStatus]

theorem observe_build_complete (late : c.looksToComplete ≤ object.looks + 1)
    (sound : c.failingBuilds.contains (labelOf processLabel object.document) = false)
    {stream : String} (target : targetOf object.document = some stream) :
    c.observe .build name =
      (.ok (.json (setMember "status" (phaseStatus "Complete") object.document)),
        (c.withPhases name object "Complete" "Succeeded" none).pushImage stream name) := by
  simp only [observe, h, observeBuild, late, sound, target, decide_true]
  simp [document?, get?_putObject, withPhases, phaseStatus, objects_pushImage_of_ne]

end

theorem get?_pushImage {stream build : String} :
    ((c.pushImage stream build).objects.get .imageStream).get? name =
      ((c.objects.get .imageStream).get? name).map fun object =>
        if name = stream then { object with document := pushed build object.document } else object := by
  unfold pushImage
  split
  · rename_i absent
    by_cases hn : name = stream
    · rw [hn, absent]
      rfl
    · simp [hn]
  · rename_i object there
    rw [get?_putObject]
    by_cases hn : name = stream
    · rw [hn, there]
      simp [pushed]
    · simp [hn]

theorem pods_pushImage {stream build : String} : (c.pushImage stream build).pods = c.pods := by
  unfold pushImage
  split <;> rfl

theorem get?_withPhases {phase podPhase : String} {reason : Option String} :
    ((c.withPhases name object phase podPhase reason).objects.get .build).get? name =
      some ⟨setMember "status" (phaseStatus phase) object.document, object.looks + 1⟩ := by
  rw [withPhases, objects_setPodPhase, get?_putObject, if_pos ⟨rfl, rfl⟩]

theorem streams_withPhases {phase podPhase : String} {reason : Option String} :
    (c.withPhases name object phase podPhase reason).objects.get .imageStream =
      c.objects.get .imageStream := by
  rw [withPhases, objects_setPodPhase, putObject, ByKind.get_set, if_neg (by decide)]

/-- What a look at a build tells and does: the build is complete and has pushed to its stream, or
streams are as they were. -/
theorem observe_build (h : (c.objects.get .build).get? name = some object) {stream : String}
    (target : targetOf object.document = some stream) :
    ∃ phase podPhase reason,
      (c.observe .build name).1 =
        .ok (.json (setMember "status" (phaseStatus phase) object.document)) ∧
      ((c.observe .build name).2.objects.get .build).get? name =
        some ⟨setMember "status" (phaseStatus phase) object.document, object.looks + 1⟩ ∧
      (c.observe .build name).2.pods = c.pods.modify (name ++ "-build") (inPhase podPhase reason) ∧
      ((phase = "Complete" ∧ ∀ name', ((c.observe .build name).2.objects.get .imageStream).get? name' =
          ((c.objects.get .imageStream).get? name').map fun object =>
            if name' = stream then { object with document := pushed name object.document } else object) ∨
        phase ≠ "Complete" ∧ podPhase ≠ "Succeeded" ∧
          (c.observe .build name).2.objects.get .imageStream = c.objects.get .imageStream) := by
  by_cases early : c.looksToComplete ≤ object.looks + 1
  · cases failing : c.failingBuilds.contains (labelOf processLabel object.document) with
    | true =>
        rw [observe_build_failed h early failing]
        refine ⟨"Failed", "Failed", some "DockerBuildFailed", rfl, get?_withPhases, rfl, .inr ?_⟩
        exact ⟨by decide, by decide, streams_withPhases⟩
    | false =>
        rw [observe_build_complete h early failing target]
        refine ⟨"Complete", "Succeeded", none, rfl, ?_, pods_pushImage, .inl ⟨rfl, fun name' => ?_⟩⟩
        · rw [objects_pushImage_of_ne (by decide), get?_withPhases]
        · rw [get?_pushImage, streams_withPhases]
  · rw [observe_build_running h early]
    refine ⟨"Running", "Running", none, rfl, get?_withPhases, rfl, .inr ?_⟩
    exact ⟨by decide, by decide, streams_withPhases⟩

theorem ns_observe (c : SimulatedCluster) (kind : ResourceKind) (name : String) :
    (c.observe kind name).2.ns = c.ns := by
  have push (c : SimulatedCluster) (stream build : String) : (c.pushImage stream build).ns = c.ns := by
    unfold pushImage
    split <;> rfl
  unfold observe
  split
  · rfl
  · cases kind with
    | volume | config => rfl
    | batchJob => rfl
    | imageStream => unfold observeStream; dsimp only; split <;> rfl
    | build => unfold observeBuild; dsimp only; split <;> first | exact push _ _ _ | rfl

/-- A look at most sets the phase of one pod. -/
theorem pods_observe (c : SimulatedCluster) (kind : ResourceKind) (name : String) :
    (c.observe kind name).2.pods = c.pods ∨
      ∃ pod phase reason, (c.observe kind name).2.pods = c.pods.modify pod (inPhase phase reason) := by
  unfold observe
  split
  · exact .inl rfl
  · cases kind with
    | volume | config => exact .inl rfl
    | batchJob => exact .inr ⟨_, _, none, rfl⟩
    | imageStream => unfold observeStream; dsimp only; split <;> exact .inl rfl
    | build =>
        refine .inr ⟨name ++ "-build", ?_⟩
        unfold observeBuild
        dsimp only
        split
        · exact ⟨_, _, pods_pushImage⟩
        · exact ⟨_, _, rfl⟩

/-- Only looks at streams and builds change streams. -/
theorem streams_observe (hs : kind ≠ .imageStream) (hb : kind ≠ .build) :
    (c.observe kind name).2.objects.get .imageStream = c.objects.get .imageStream := by
  unfold observe
  split
  · rfl
  · cases kind with
    | volume | config | batchJob => simp [putObject, observeBatch]
    | imageStream => exact absurd rfl hs
    | build => exact absurd rfl hb

end SimulatedCluster

/-! ### Pods -/

/-- Every pod that is marked as one of an object has the name that the object's pod gets. -/
def PodsSound (c : SimulatedCluster) : Prop :=
  ∀ key pod, c.pods.get? key = some pod → HasStatus pod ∧
    ∀ kind label ending, podOwner? kind = some (label, ending) → labelOf label pod ≠ "" →
      key = labelOf label pod ++ ending

theorem podsSound_newPod {kind : ResourceKind} {label ending owner processName : String}
    (h : podOwner? kind = some (label, ending)) :
    HasStatus (newPod (owner ++ ending) label owner processName) ∧
      ∀ kind' label' ending', podOwner? kind' = some (label', ending') →
        labelOf label' (newPod (owner ++ ending) label owner processName) ≠ "" →
        owner ++ ending = labelOf label' (newPod (owner ++ ending) label owner processName) ++ ending' := by
  refine ⟨hasStatus_newPod, fun kind' label' ending' h' marked => ?_⟩
  have apart : label ≠ processLabel ∧ label' ≠ processLabel := by
    cases kind <;> cases kind' <;> cases h <;> cases h' <;> decide
  by_cases heq : label' = label
  · have : ending' = ending := by
      cases kind <;> cases kind' <;> cases h <;> cases h' <;> first | rfl | exact absurd heq (by decide)
    rw [heq, this, labelOf_newPod apart.1]
  · exact absurd (labelOf_newPod_of_ne heq apart.2) marked

theorem Answered.podsSound {c c' : SimulatedCluster} {r : Request} {reply : Reply}
    (h : Answered c r reply c') (hc : PodsSound c) : PodsSound c' := by
  have same {c' : SimulatedCluster} (same : c'.pods = c.pods) : PodsSound c' := by
    intro key pod hp
    rw [same] at hp
    exact hc key pod hp
  cases h with
  | refused contents => exact same contents.pods
  | told contents => exact same contents.pods
  | listed _ _ _ contents => exact same contents.pods
  | created kind _ _ name processName _ _ _ _ _ _ _ pods =>
      intro key pod hp
      rw [pods, podsWith] at hp
      cases ho : podOwner? kind with
      | none =>
          rw [ho] at hp
          exact hc key pod hp
      | some owner =>
          rw [ho] at hp
          dsimp only at hp
          rw [Dict.get?_insert] at hp
          split at hp
          · rename_i hk
            cases hp
            rw [hk]
            exact podsSound_newPod ho
          · exact hc key pod hp
  | @observed c₀ kind name _ _ _ _ _ contents =>
      obtain hpods | ⟨name, phase, reason, hpods⟩ := c₀.pods_observe kind name
      · exact same (hpods.trans contents.pods)
      · intro key pod hp
        rw [hpods, contents.pods, Dict.get?_modify] at hp
        obtain ⟨old, hold, rfl⟩ := Option.map_eq_some_iff.1 hp
        obtain ⟨status, owners⟩ := hc key old hold
        split
        · refine ⟨hasStatus_inPhase status, fun kind label ending ho marked => ?_⟩
          rw [labelOf_inPhase] at marked ⊢
          exact owners kind label ending ho marked
        · exact ⟨status, owners⟩
  | removed kind _ _ _ _ _ pods =>
      intro key pod hp
      rw [pods, podsWithout] at hp
      cases ho : podOwner? kind with
      | none =>
          rw [ho] at hp
          exact hc key pod hp
      | some owner =>
          rw [ho] at hp
          exact hc key pod (Dict.get?_filter_imp hp).1
  | erased name _ _ _ _ pods =>
      intro key pod hp
      rw [pods, Dict.get?_erase] at hp
      split at hp
      · cases hp
      · exact hc key pod hp

end Simulation
end ImageryJobs
