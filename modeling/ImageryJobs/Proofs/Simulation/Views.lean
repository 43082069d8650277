import ImageryJobs.Proofs.Simulation.Answers

/-!
What requests do to a simulated cluster in which nothing is arranged. A view says what stands under
each name; a request to such a cluster has one answer, and changes the view at the names that it is
about and nowhere else.
-/

namespace ImageryJobs

namespace Dict

universe u v

variable {κ : Type u} {α : Type v} [LT κ] [DecidableLT κ] [LE κ] [Std.IsLinearOrder κ]
  [Std.LawfulOrderLT κ] [DecidableEq κ]

theorem get?_filter (d : Dict κ α) (p : κ → α → Bool) (k : κ) :
    (d.filter p).get? k = (d.get? k).filter (p k) := by
  cases h : d.get? k with
  | some v =>
      cases hp : p k v with
      | true =>
          rw [Option.filter_some_pos hp, get?_eq_some_iff]
          exact List.mem_filter.2 ⟨get?_eq_some_iff.1 h, hp⟩
      | false =>
          rw [Option.filter_some_neg (by simp [hp]), Option.eq_none_iff_forall_ne_some]
          intro v' hv'
          obtain ⟨hold, kept⟩ := get?_filter_imp hv'
          cases h.symm.trans hold
          cases hp.symm.trans kept
  | none =>
      rw [Option.filter_none, Option.eq_none_iff_forall_ne_some]
      intro v' hv'
      cases h.symm.trans (get?_filter_imp hv').1

omit [DecidableLT κ] in
theorem eq_empty_of_get? {d : Dict κ α} (h : ∀ k, d.get? k = none) : d = ∅ := by
  refine ext_entries (List.eq_nil_iff_forall_not_mem.2 fun entry hm => ?_)
  cases (h entry.1).symm.trans (get?_eq_some_iff.2 hm)

end Dict

namespace Simulation

open SimulatedCluster

/-! ### Views -/

/-- What stands in a cluster under each name. -/
@[ext] structure View where
  objects : ResourceKind → String → Option StoredObject
  pods : String → Option Json

/-- What stands in a cluster. -/
def SimulatedCluster.view (c : SimulatedCluster) : View :=
  ⟨fun kind name => (c.objects.get kind).get? name, fun name => c.pods.get? name⟩

namespace View

/-- Puts an object under a name, or nothing. -/
def set (v : View) (kind : ResourceKind) (name : String) (object : Option StoredObject) : View :=
  { v with objects := fun kind' name' =>
      if kind' = kind ∧ name' = name then object else v.objects kind' name' }

/-- Takes objects away. -/
def clear (v : View) (kind : ResourceKind) (names : List String) : View :=
  { v with objects := fun kind' name' =>
      if kind' = kind ∧ name' ∈ names then none else v.objects kind' name' }

/-- An object whose only pod is the only one in the cluster. -/
def working (v : View) (kind : ResourceKind) (name : String) (object : StoredObject)
    (key : String) (pod : Json) : View :=
  ⟨(v.set kind name (some object)).objects, fun key' => if key' = key then some pod else none⟩

variable {v : View} {kind kind' : ResourceKind} {name name' key : String}
  {object object' : Option StoredObject} {stored : StoredObject} {pod : Json}

theorem objects_set :
    (v.set kind name object).objects kind' name' =
      if kind' = kind ∧ name' = name then object else v.objects kind' name' := rfl

@[simp] theorem pods_set : (v.set kind name object).pods = v.pods := rfl

@[simp] theorem objects_set_self : (v.set kind name object).objects kind name = object :=
  if_pos ⟨rfl, rfl⟩

theorem objects_set_of_ne (h : kind' ≠ kind) :
    (v.set kind name object).objects kind' = v.objects kind' := by
  funext name'
  exact if_neg fun heq => h heq.1

@[simp] theorem set_set :
    (v.set kind name object).set kind name object' = v.set kind name object' := by
  ext1
  · funext kind' name'
    simp only [objects_set]
    split <;> rfl
  · rfl

theorem set_eq_self (h : v.objects kind name = object) : v.set kind name object = v := by
  ext1
  · funext kind' name'
    rw [objects_set]
    split
    · rename_i heq
      rw [heq.1, heq.2, h]
    · rfl
  · rfl

theorem set_comm (h : kind ≠ kind') :
    (v.set kind name object).set kind' name' object' =
      (v.set kind' name' object').set kind name object := by
  ext1
  · funext kind'' name''
    simp only [objects_set]
    split <;> split <;> first | rfl | simp_all
  · rfl

theorem objects_clear {names : List String} :
    (v.clear kind names).objects kind' name' =
      if kind' = kind ∧ name' ∈ names then none else v.objects kind' name' := rfl

@[simp] theorem pods_clear {names : List String} : (v.clear kind names).pods = v.pods := rfl

@[simp] theorem clear_nil : v.clear kind [] = v := by
  ext1
  · funext kind' name'
    exact if_neg fun h => List.not_mem_nil h.2
  · rfl

theorem set_none_clear {names : List String} :
    (v.set kind name none).clear kind names = v.clear kind (name :: names) := by
  ext1
  · funext kind' name'
    simp only [objects_clear, objects_set, List.mem_cons]
    split <;> split <;> first | rfl | split <;> simp_all | simp_all
  · rfl

@[simp] theorem objects_working_self : (v.working kind name stored key pod).objects kind name = some stored :=
  objects_set_self

theorem set_working {stored' : StoredObject} :
    (v.working kind name stored key pod).set kind name (some stored') =
      v.working kind name stored' key pod := by
  have objects : ((v.set kind name (some stored)).set kind name (some stored')).objects =
      (v.set kind name (some stored')).objects := congrArg objects set_set
  ext1
  · exact objects
  · rfl

theorem set_working_of_ne (h : kind' ≠ kind) :
    (v.working kind name stored key pod).set kind' name' object =
      (v.set kind' name' object).working kind name stored key pod := by
  have objects : ((v.set kind name (some stored)).set kind' name' object).objects =
      ((v.set kind' name' object).set kind name (some stored)).objects :=
    congrArg objects (set_comm h.symm)
  ext1
  · exact objects
  · rfl

theorem objects_working_of_ne (h : kind' ≠ kind) :
    (v.working kind name stored key pod).objects kind' = v.objects kind' := objects_set_of_ne h

end View

/-! ### Clusters in which nothing is arranged -/

/-- Nothing is arranged in a cluster. -/
structure Plain (ns : String) (looks : Nat) (c : SimulatedCluster) : Prop where
  ns : c.ns = ns
  looks : c.looksToComplete = looks
  conflicts : ∀ kind, c.conflicts.get kind = 0
  failingJobs : c.failingJobs = []
  failingBuilds : c.failingBuilds = []
  heldJobs : c.heldJobs = []
  available : c.unavailable = false

variable {ns : String} {looks : Nat} {c : SimulatedCluster} {v : View} {kind : ResourceKind}
  {name : String} {object : StoredObject}

theorem plain_empty : Plain ns looks (.empty ns looks) :=
  ⟨rfl, rfl, fun kind => by cases kind <;> rfl, rfl, rfl, rfl, rfl⟩

theorem view_empty : (SimulatedCluster.empty ns looks).view = ⟨fun _ _ => none, fun _ => none⟩ := by
  ext1
  · funext kind name
    cases kind <;> rfl
  · rfl

theorem Plain.putObject (h : Plain ns looks c) : Plain ns looks (c.putObject kind name object) :=
  ⟨h.ns, h.looks, h.conflicts, h.failingJobs, h.failingBuilds, h.heldJobs, h.available⟩

theorem Plain.withPods (h : Plain ns looks c) (pods : Dict String Json) :
    Plain ns looks { c with pods } :=
  ⟨h.ns, h.looks, h.conflicts, h.failingJobs, h.failingBuilds, h.heldJobs, h.available⟩

theorem Plain.setPodPhase (h : Plain ns looks c) {pod phase : String} {reason : Option String} :
    Plain ns looks (c.setPodPhase pod phase reason) := h.withPods _

theorem Plain.withPhases (h : Plain ns looks c) {phase podPhase : String} {reason : Option String} :
    Plain ns looks (c.withPhases name object phase podPhase reason) := h.putObject.setPodPhase

theorem Plain.pushImage (h : Plain ns looks c) {stream build : String} :
    Plain ns looks (c.pushImage stream build) := by
  unfold SimulatedCluster.pushImage
  split
  · exact h
  · exact h.putObject

theorem view_putObject : (c.putObject kind name object).view = c.view.set kind name (some object) := by
  ext1
  · funext kind' name'
    exact get?_putObject
  · rfl

/-- What a request does where nothing is arranged: its answer, and the view afterwards. -/
def Effect (ns : String) (looks : Nat) (r : Request) (v : View) (post : Reply → View → Prop) : Prop :=
  ∀ c, Plain ns looks c → c.view = v →
    Plain ns looks (c.answer r).2 ∧ post (c.answer r).1 (c.answer r).2.view

theorem Effect.mono {r : Request} {post post' : Reply → View → Prop} (h : Effect ns looks r v post)
    (hpost : ∀ reply v', post reply v' → post' reply v') : Effect ns looks r v post' := by
  intro c hc hv
  obtain ⟨plain, told⟩ := h c hc hv
  exact ⟨plain, hpost _ _ told⟩

/-- A request about objects is answered by the control plane. -/
theorem effect_of_control {r : Request} {post : Reply → View → Prop} (plane : r.api = .controlPlane)
    (h : ∀ c, Plain ns looks c → c.view = v →
      Plain ns looks (c.controlReply r).2 ∧ post (c.controlReply r).1 (c.controlReply r).2.view) :
    Effect ns looks r v post := by
  intro c hc hv
  have answer : c.answer r =
      ({ c with received := r :: c.received } : SimulatedCluster).controlReply r := by
    simp [SimulatedCluster.answer, hc.available, plane]
  rw [answer]
  exact h _ ⟨hc.ns, hc.looks, hc.conflicts, hc.failingJobs, hc.failingBuilds, hc.heldJobs, hc.available⟩ hv

/-! ### Creating and deleting -/

section

variable (hns : '?' ∉ ns.toList)
include hns

theorem create_of_absent {document : Json} (hc : Plain ns looks c)
    (named : Template.nameOf document = some name) (absent : (c.objects.get kind).get? name = none) :
    c.controlReply (.post (kind.collectionPath ns) document) =
      (.ok (.json (initialDocument kind document)),
        (c.startPod kind name (labelOf processLabel document)).putObject kind name
          ⟨initialDocument kind document, 0⟩) := by
  have route : Route.ofPath c.ns (kind.collectionPath ns) = .collection kind none := by
    rw [hc.ns]
    exact Route.ofPath_collectionPath hns kind
  simp [SimulatedCluster.controlReply, Request.post, route, SimulatedCluster.create, hc.conflicts kind,
    named, Dict.contains, absent]

/-- An object without pods that is not there is created. -/
theorem effect_post {document : Json} (named : Template.nameOf document = some name)
    (podless : podOwner? kind = none) (absent : v.objects kind name = none) :
    Effect ns looks (.post (kind.collectionPath ns) document) v fun reply v' =>
      reply.isOk = true ∧ v' = v.set kind name (some ⟨initialDocument kind document, 0⟩) := by
  refine effect_of_control rfl fun c hc hv => ?_
  subst hv
  rw [create_of_absent hns hc named absent, SimulatedCluster.startPod, podless]
  exact ⟨hc.putObject, rfl, view_putObject⟩

/-- So is one with a pod, which begins with it. -/
theorem effect_post_pod {document : Json} {label ending : String}
    (named : Template.nameOf document = some name) (owner : podOwner? kind = some (label, ending))
    (absent : v.objects kind name = none) (podless : ∀ key, v.pods key = none) :
    Effect ns looks (.post (kind.collectionPath ns) document) v fun reply v' =>
      reply.isOk = true ∧ v' = v.working kind name ⟨initialDocument kind document, 0⟩ (name ++ ending)
        (newPod (name ++ ending) label name (labelOf processLabel document)) := by
  refine effect_of_control rfl fun c hc hv => ?_
  subst hv
  rw [create_of_absent hns hc named absent, SimulatedCluster.startPod, owner]
  refine ⟨(hc.withPods _).putObject, rfl, ?_⟩
  rw [view_putObject]
  ext1
  · rfl
  · funext key
    have none : c.pods.get? key = none := podless key
    simp [SimulatedCluster.view, View.working, none]

theorem controlReply_delete (hc : Plain ns looks c) (label : IsLabel name) :
    c.controlReply (.delete (kind.instancePath ns name)) = c.remove kind name := by
  have route : Route.ofPath c.ns (kind.instancePath ns name) = .object kind name := by
    rw [hc.ns]
    exact Route.ofPath_instancePath hns kind label
  simp [SimulatedCluster.controlReply, Request.delete, route]

omit hns in
theorem view_erase (c : SimulatedCluster) (kind : ResourceKind) (name : String) :
    ({ c with objects := c.objects.set kind ((c.objects.get kind).erase name) } : SimulatedCluster).view =
      c.view.set kind name none := by
  ext1
  · funext kind' name'
    simp only [SimulatedCluster.view, View.objects_set, ByKind.get_set]
    by_cases hk : kind' = kind
    · subst hk
      simp [Dict.get?_erase]
    · simp [hk]
  · rfl

/-- After a deletion an object without pods is not there, whether it was before or not. -/
theorem effect_delete (label : IsLabel name) (podless : podOwner? kind = none) :
    Effect ns looks (.delete (kind.instancePath ns name)) v fun reply v' =>
      Calling.isGone reply = true ∧ v' = v.set kind name none := by
  refine effect_of_control rfl fun c hc hv => ?_
  subst hv
  rw [controlReply_delete hns hc label, SimulatedCluster.remove]
  split
  · rw [podless]
    exact ⟨⟨hc.ns, hc.looks, hc.conflicts, hc.failingJobs, hc.failingBuilds, hc.heldJobs, hc.available⟩,
      rfl, view_erase c kind name⟩
  · rename_i absent
    rw [Dict.contains, Option.not_isSome_iff_eq_none] at absent
    exact ⟨hc, rfl, (View.set_eq_self absent).symm⟩

/-- With an object its pod goes. -/
theorem effect_delete_pod {ownerLabel ending key : String} {pod : Json} (label : IsLabel name)
    (owner : podOwner? kind = some (ownerLabel, ending)) (own : labelOf ownerLabel pod = name)
    (absent : v.objects kind name = none) (podless : ∀ key, v.pods key = none) :
    Effect ns looks (.delete (kind.instancePath ns name)) (v.working kind name object key pod)
      fun reply v' => Calling.isGone reply = true ∧ v' = v := by
  refine effect_of_control rfl fun c hc hv => ?_
  have there : (c.objects.get kind).get? name = some object := by
    have := congrFun (congrFun (congrArg View.objects hv) kind) name
    rwa [View.objects_working_self] at this
  rw [controlReply_delete hns hc label, SimulatedCluster.remove,
    if_pos (by rw [Dict.contains, there]; rfl)]
  simp only [owner]
  refine ⟨⟨hc.ns, hc.looks, hc.conflicts, hc.failingJobs, hc.failingBuilds, hc.heldJobs, hc.available⟩,
    rfl, ?_⟩
  ext1
  · have erased := congrArg View.objects (view_erase c kind name)
    refine erased.trans ?_
    rw [hv]
    change ((v.set kind name (some object)).set kind name none).objects = v.objects
    rw [View.set_set, View.set_eq_self absent]
  · funext key'
    have there := congrFun (congrArg View.pods hv) key'
    change c.pods.get? key' = if key' = key then some pod else none at there
    change (c.pods.filter _).get? key' = v.pods key'
    rw [Dict.get?_filter, there, podless key']
    split
    · exact Option.filter_some_neg (by simp [own])
    · rfl

/-! ### Looks -/

theorem controlReply_get (hc : Plain ns looks c) (label : IsLabel name) :
    c.controlReply (.get (kind.instancePath ns name)) = c.observe kind name := by
  have route : Route.ofPath c.ns (kind.instancePath ns name) = .object kind name := by
    rw [hc.ns]
    exact Route.ofPath_instancePath hns kind label
  simp [SimulatedCluster.controlReply, Request.get, route]

theorem effect_get_of_absent (label : IsLabel name) (absent : v.objects kind name = none) :
    Effect ns looks (.get (kind.instancePath ns name)) v fun reply v' => reply = notFound ∧ v' = v := by
  refine effect_of_control rfl fun c hc hv => ?_
  subst hv
  have missed : c.observe kind name = (notFound, c) := by
    have absent : (c.objects.get kind).get? name = none := absent
    simp only [SimulatedCluster.observe, absent]
  rw [controlReply_get hns hc label, missed]
  exact ⟨hc, rfl, rfl⟩

/-- A claim is bound at the first look. -/
theorem effect_get_volume (label : IsLabel name) (there : v.objects .volume name = some object) :
    Effect ns looks (.get (ResourceKind.volume.instancePath ns name)) v fun reply v' =>
      reply = .ok (.json (setMember "status" (phaseStatus "Bound") object.document)) ∧
        v' = v.set .volume name
          (some ⟨setMember "status" (phaseStatus "Bound") object.document, object.looks + 1⟩) := by
  refine effect_of_control rfl fun c hc hv => ?_
  subst hv
  rw [controlReply_get hns hc label, observe_volume there]
  exact ⟨hc.putObject, rfl, view_putObject⟩

theorem effect_get_config (label : IsLabel name) (there : v.objects .config name = some object) :
    Effect ns looks (.get (ResourceKind.config.instancePath ns name)) v fun reply v' =>
      reply = .ok (.json object.document) ∧
        v' = v.set .config name (some ⟨object.document, object.looks + 1⟩) := by
  refine effect_of_control rfl fun c hc hv => ?_
  subst hv
  rw [controlReply_get hns hc label, observe_config there]
  exact ⟨hc.putObject, rfl, view_putObject⟩

/-- The repository that a stream gets under a namespace. -/
def repositoryIn (ns stream : String) : String := s!"image-registry.local:5000/{ns}/{stream}"

omit hns in
theorem repository_eq (hc : Plain ns looks c) (stream : String) :
    c.repository stream = repositoryIn ns stream := by
  have own : c.repository stream = repositoryIn c.ns stream := rfl
  rw [own, hc.ns]

theorem effect_get_stream (label : IsLabel name) (there : v.objects .imageStream name = some object) :
    Effect ns looks (.get (ResourceKind.imageStream.instancePath ns name)) v fun reply v' =>
      reply = .ok (.json (served (repositoryIn ns name) object.document)) ∧
        v' = v.set .imageStream name
          (some ⟨served (repositoryIn ns name) object.document, object.looks + 1⟩) := by
  refine effect_of_control rfl fun c hc hv => ?_
  subst hv
  rw [controlReply_get hns hc label, observe_stream there, repository_eq hc]
  exact ⟨hc.putObject, rfl, view_putObject⟩

/-! #### Builds and batch jobs -/

omit hns in
theorem pods_modify {key phase : String} {reason : Option String} {pod : Json}
    (only : ∀ key', c.pods.get? key' = if key' = key then some pod else none) (key' : String) :
    (c.pods.modify key (inPhase phase reason)).get? key' =
      if key' = key then some (inPhase phase reason pod) else none := by
  rw [Dict.get?_modify, only]
  split <;> simp_all

omit hns in
theorem view_setPodPhase {object' : StoredObject} {key phase : String} {reason : Option String}
    {pod : Json} (hv : c.view = v.working kind name object key pod) :
    ((c.putObject kind name object').setPodPhase key phase reason).view =
      v.working kind name object' key (inPhase phase reason pod) := by
  ext1
  · have put : (c.putObject kind name object').view = c.view.set kind name (some object') := view_putObject
    rw [hv, View.set_working] at put
    have objects := congrArg View.objects put
    exact objects
  · funext key'
    exact pods_modify (fun key => congrFun (congrArg View.pods hv) key) key'

/-- A build runs until the look at which it is complete. -/
theorem effect_get_build_early {pod : Json} (label : IsLabel name) (early : object.looks + 1 < looks) :
    Effect ns looks (.get (ResourceKind.build.instancePath ns name))
      (v.working .build name object (name ++ "-build") pod) fun reply v' =>
        reply = .ok (.json (setMember "status" (phaseStatus "Running") object.document)) ∧
          v' = v.working .build name
            ⟨setMember "status" (phaseStatus "Running") object.document, object.looks + 1⟩
            (name ++ "-build") (inPhase "Running" none pod) := by
  refine effect_of_control rfl fun c hc hv => ?_
  have there : (c.objects.get .build).get? name = some object := by
    have := congrFun (congrFun (congrArg View.objects hv) .build) name
    rwa [View.objects_working_self] at this
  rw [controlReply_get hns hc label, observe_build_running there (by rw [hc.looks]; omega)]
  dsimp only
  exact ⟨hc.withPhases, rfl, view_setPodPhase hv⟩

/-- A build that is complete has filled its stream. -/
theorem effect_get_build_late {stream : String} {held : StoredObject} {pod : Json} (label : IsLabel name)
    (late : looks ≤ object.looks + 1) (target : targetOf object.document = some stream)
    (there : v.objects .imageStream stream = some held) :
    Effect ns looks (.get (ResourceKind.build.instancePath ns name))
      (v.working .build name object (name ++ "-build") pod) fun reply v' =>
        reply = .ok (.json (setMember "status" (phaseStatus "Complete") object.document)) ∧
          v' = (v.set .imageStream stream (some { held with document := pushed name held.document })).working
            .build name ⟨setMember "status" (phaseStatus "Complete") object.document, object.looks + 1⟩
            (name ++ "-build") (inPhase "Succeeded" none pod) := by
  refine effect_of_control rfl fun c hc hv => ?_
  have build : (c.objects.get .build).get? name = some object := by
    have := congrFun (congrFun (congrArg View.objects hv) .build) name
    rwa [View.objects_working_self] at this
  rw [controlReply_get hns hc label, observe_build_complete build (by rw [hc.looks]; exact late)
    (by rw [hc.failingBuilds]; rfl) target]
  dsimp only
  refine ⟨hc.withPhases.pushImage, rfl, ?_⟩
  have phases : (c.withPhases name object "Complete" "Succeeded" none).view = v.working .build name
      ⟨setMember "status" (phaseStatus "Complete") object.document, object.looks + 1⟩
      (name ++ "-build") (inPhase "Succeeded" none pod) := view_setPodPhase hv
  have filled : ((c.withPhases name object "Complete" "Succeeded" none).objects.get .imageStream).get? stream =
      some held := by
    have := congrFun (congrFun (congrArg View.objects phases) .imageStream) stream
    rwa [View.objects_working_of_ne (by decide), there] at this
  rw [SimulatedCluster.pushImage, filled]
  dsimp only
  rw [view_putObject, phases, View.set_working_of_ne (by decide)]
  rfl

/-- A batch job is active until the look at which it has succeeded. -/
theorem effect_get_batch {pod : Json} (label : IsLabel name) :
    Effect ns looks (.get (ResourceKind.batchJob.instancePath ns name))
      (v.working .batchJob name object (name ++ "-pod") pod) fun reply v' =>
        let status := batchStatus (looks ≤ object.looks + 1 : Bool) false
        reply = .ok (.json (setMember "status" status.1 object.document)) ∧
          v' = v.working .batchJob name
            ⟨setMember "status" status.1 object.document, object.looks + 1⟩
            (name ++ "-pod") (inPhase status.2 none pod) := by
  refine effect_of_control rfl fun c hc hv => ?_
  have there : (c.objects.get .batchJob).get? name = some object := by
    have := congrFun (congrFun (congrArg View.objects hv) .batchJob) name
    rwa [View.objects_working_self] at this
  obtain ⟨ended, failing, he, hf, observed⟩ := observe_batch there
  have ends : ended = (looks ≤ object.looks + 1 : Bool) := by simp [he, hc.looks, hc.heldJobs]
  have sound : failing = false := by simp [hf, hc.failingJobs]
  subst sound
  rw [controlReply_get hns hc label, observed, ends]
  dsimp only
  exact ⟨Plain.setPodPhase hc.putObject, rfl, view_setPodPhase hv⟩

/-! #### Listings -/

/-- The pods under a label. -/
theorem effect_get_pods {label value : String} (hl : '=' ∉ label.toList) :
    Effect ns looks (.get (listPath (podsPath ns) (selectorOf label value))) v fun reply v' => v' = v ∧
      ∃ items, Calling.listed reply = .ok items ∧
        ∀ pod, pod ∈ items ↔ labelOf label pod = value ∧ ∃ key, v.pods key = some pod := by
  refine effect_of_control rfl fun c hc hv => ?_
  subst hv
  have route : Route.ofPath c.ns (listPath (podsPath ns) (selectorOf label value)) =
      .pods (some (label, value)) := by
    rw [hc.ns]
    exact Route.ofPath_listPods hns hl
  have reply : c.controlReply (.get (listPath (podsPath ns) (selectorOf label value))) =
      (listing "PodList" c.pods.values (some (label, value)), c) := by
    simp [SimulatedCluster.controlReply, Request.get, route]
  rw [reply]
  refine ⟨hc, rfl, _, listed_listing _ _ _, fun pod => ?_⟩
  rw [List.mem_filter, Dict.mem_values]
  simp [selects, SimulatedCluster.view, and_comm]

/-- Where there are no builds none is listed. -/
theorem effect_list_builds {label value : String} (hl : '=' ∉ label.toList)
    (absent : ∀ name, v.objects .build name = none) :
    Effect ns looks (.get (listPath (ResourceKind.build.collectionPath ns) (selectorOf label value))) v
      fun reply v' => v' = v ∧ Calling.listed reply = .ok [] := by
  refine effect_of_control rfl fun c hc hv => ?_
  subst hv
  have route : Route.ofPath c.ns (listPath (ResourceKind.build.collectionPath ns) (selectorOf label value)) =
      .collection .build (some (label, value)) := by
    rw [hc.ns]
    exact Route.ofPath_listPath hns .build hl
  have none : c.objects.get .build = ∅ := Dict.eq_empty_of_get? absent
  have reply : c.controlReply
      (.get (listPath (ResourceKind.build.collectionPath ns) (selectorOf label value))) =
      (listing "List" [] (some (label, value)), c) := by
    simp only [SimulatedCluster.controlReply, Request.get, route, none]
    rfl
  rw [reply]
  exact ⟨hc, rfl, listed_listing _ _ _⟩

/-! #### Reading -/

omit hns in
/-- Metrics and what pods have written are read without a change. -/
theorem effect_get_metrics {path : String} :
    Effect ns looks ⟨.metrics, .get, path, none⟩ v fun _ v' => v' = v := by
  intro c hc hv
  have answer : c.answer ⟨.metrics, .get, path, none⟩ =
      (metricsReply ⟨.metrics, .get, path, none⟩,
        { c with received := ⟨.metrics, .get, path, none⟩ :: c.received }) := by
    simp [SimulatedCluster.answer, hc.available]
  rw [answer]
  exact ⟨⟨hc.ns, hc.looks, hc.conflicts, hc.failingJobs, hc.failingBuilds, hc.heldJobs, hc.available⟩, hv⟩

theorem effect_get_log {pod : String} :
    Effect ns looks (.get (podLogPath ns pod)) v fun _ v' => v' = v := by
  refine effect_of_control rfl fun c hc hv => ?_
  obtain ⟨name, route | route⟩ := Route.ofPath_podPath hns (pod ++ "/log") <;>
    simp only [SimulatedCluster.controlReply, Request.get, podLogPath_eq, hc.ns, route] <;>
    exact ⟨hc, hv⟩

end

end Simulation
end ImageryJobs
