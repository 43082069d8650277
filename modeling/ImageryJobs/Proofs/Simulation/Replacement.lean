import ImageryJobs.Proofs.Simulation.Owners
import ImageryJobs.Proofs.Simulation.Views

/-!
Objects of a task that are created and deleted on a simulated cluster on which nobody cancels. Whatever
stands in the cluster, a creation leaves the new object with a new pod in place of what had its name,
a deletion leaves nothing of it, and neither touches anything else.
-/

namespace ImageryJobs.Simulation

open SimulatedCluster (podOwner? newPod initialDocument refuse notFound listing)

/-! ### Work on a cluster -/

/-- The answer of a cluster where nothing is cancelled. -/
def serve (op : ClusterOp) : StateM SimulatedCluster op.Answer :=
  fun c => undisturbed (.cluster op) c

/-- Work on a resource on a cluster where nothing is cancelled: its end, what is known of the resource
then, and the cluster. -/
def managed {ε α : Type} (work : Managing ε α) (r : Resource) (c : SimulatedCluster) :
    (Except ε α × Resource) × SimulatedCluster :=
  ((work.run.run r).run serve).run c

/-- The rules of such work: everything may be asked, and there is one answer. -/
def serving : Rules clusterInterface SimulatedCluster := .answering serve

/-- Work that cannot fail ends well. -/
theorem managed_of_meets {ε α : Type} {work : Managing ε α} {r : Resource} {c : SimulatedCluster}
    {ok : α → Resource → SimulatedCluster → Prop}
    (h : MeetsWith serving work r c ok fun _ _ _ => False) :
    ∃ value r' c', managed work r c = ((.ok value, r'), c') ∧ ok value r' c' := by
  have ended : Ending (fun value => ok value (managed work r c).1.2) (fun _ _ => False)
      (managed work r c).1.1 (managed work r c).2 := Script.meets_answering.1 h
  cases hm : managed work r c with
  | mk p c' =>
      obtain ⟨result, r'⟩ := p
      rw [hm] at ended
      cases result with
      | ok value => exact ⟨value, r', c', rfl, ended⟩
      | error e => exact ended.elim

theorem step_of_answer {before : SimulatedCluster → Prop} {request : Request}
    {after : Reply → SimulatedCluster → Prop}
    (h : ∀ c, before c → ∃ reply c', c.answer request = (reply, c') ∧ after reply c') :
    serving.Step before (.send request) fun (reply : Reply) c => after reply c := by
  refine fun c hc => ⟨trivial, fun reply c' moved => ?_⟩
  have moved : c.answer request = (reply, c') := moved
  obtain ⟨_, _, answered, told⟩ := h c hc
  cases moved.symm.trans answered
  exact told

theorem step_untripped (before : SimulatedCluster → Prop) (span : Millis) :
    serving.Step before (.pause span) fun (tripped : Bool) c => tripped = false ∧ before c := by
  refine fun c hc => ⟨trivial, fun tripped c' moved => ?_⟩
  have moved : (false, c) = (tripped, c') := moved
  cases moved
  exact ⟨rfl, hc⟩

/-! ### Templates of a task -/

/-- The templates of a task's own objects. -/
inductive OfTask : Template → Prop where
  | volume (jobId taskId : String) (config : ClusterConfig) :
      OfTask (VolumeTemplate.forTask jobId taskId config).template
  | config (jobId taskId : String) (args : Members) (inputs : List String) :
      OfTask (ConfigTemplate.forTask jobId taskId args inputs).template
  | build (jobId taskId processId : String) (stream : ImageStreamTemplate) (source : BuildSource) :
      OfTask (BuildTemplate.forTask jobId taskId processId stream source).template
  | batch (jobId taskId processId image : String) (mounts : List Mount) (resources : ComputeResources) :
      OfTask (BatchTemplate.forTask jobId taskId processId image mounts resources).template

/-- An object that nobody else uses: it has a name of its own, and its pods are selected by that name. -/
structure Sole (t : Template) : Prop where
  label : IsLabel t.name
  nonempty : t.name ≠ ""
  named : t.IsNamed
  unshared : t.shared = false
  selector : t.podSelector = (podOwner? t.kind).map fun mark => selectorOf mark.1 t.name

theorem OfTask.sole {t : Template} (h : OfTask t) : Sole t := by
  cases h with
  | volume jobId taskId config =>
      exact ⟨isLabel_objectName _ _ _, objectName_ne_empty _ _ _, VolumeTemplate.isNamed _, rfl, rfl⟩
  | config jobId taskId args inputs =>
      exact ⟨isLabel_objectName _ _ _, objectName_ne_empty _ _ _, ConfigTemplate.isNamed _, rfl, rfl⟩
  | build jobId taskId processId stream source =>
      exact ⟨isLabel_objectName _ _ _, objectName_ne_empty _ _ _, BuildTemplate.isNamed _, rfl, rfl⟩
  | batch jobId taskId processId image mounts resources =>
      exact ⟨isLabel_objectName _ _ _, objectName_ne_empty _ _ _, BatchTemplate.isNamed _, rfl, rfl⟩

/-! ### Clusters that differ in one object -/

/-- A pod has the label of an object. -/
def Backs (t : Template) (pod : Json) : Prop :=
  ∃ label ending, podOwner? t.kind = some (label, ending) ∧ labelOf label pod = t.name

theorem backs_iff_label {t : Template} {pod : Json} {label ending : String}
    (owner : podOwner? t.kind = some (label, ending)) : Backs t pod ↔ labelOf label pod = t.name := by
  constructor
  · rintro ⟨label', ending', owner', marked⟩
    cases owner.symm.trans owner'
    exact marked
  · exact fun marked => ⟨label, ending, owner, marked⟩

/-- A pod is the new one that begins with an object. -/
def IsNewPod (t : Template) (key : String) (pod : Json) : Prop :=
  ∃ label ending, podOwner? t.kind = some (label, ending) ∧ key = t.name ++ ending ∧
    pod = newPod key label t.name (labelOf processLabel t.document)

/-- A cluster that has received a request and done nothing yet. -/
def SimulatedCluster.receive (c : SimulatedCluster) (request : Request) : SimulatedCluster :=
  { c with received := request :: c.received }

namespace SimulatedCluster

variable (c : SimulatedCluster) (request : Request)

@[simp] theorem ns_receive : (c.receive request).ns = c.ns := rfl

@[simp] theorem objects_receive : (c.receive request).objects = c.objects := rfl

@[simp] theorem pods_receive : (c.receive request).pods = c.pods := rfl

@[simp] theorem conflicts_receive : (c.receive request).conflicts = c.conflicts := rfl

variable {c request} in
theorem answer_of_available (available : c.unavailable = false) (plane : request.api = .controlPlane) :
    c.answer request = (c.receive request).controlReply request := by
  have serving : ¬ c.unavailable = true := by
    rw [available]
    exact Bool.false_ne_true
  unfold answer
  dsimp only
  rw [if_neg serving, plane]
  rfl

end SimulatedCluster

/-- Two clusters are set up in the same way, apart from what is refused. -/
structure SameSetting (c c' : SimulatedCluster) : Prop where
  ns : c'.ns = c.ns
  looks : c'.looksToComplete = c.looksToComplete
  logs : c'.logs = c.logs
  failingJobs : c'.failingJobs = c.failingJobs
  failingBuilds : c'.failingBuilds = c.failingBuilds
  heldJobs : c'.heldJobs = c.heldJobs
  unavailable : c'.unavailable = c.unavailable

theorem SameSetting.trans {c c' c'' : SimulatedCluster} (h : SameSetting c c') (h' : SameSetting c' c'') :
    SameSetting c c'' :=
  ⟨h'.ns.trans h.ns, h'.looks.trans h.looks, h'.logs.trans h.logs, h'.failingJobs.trans h.failingJobs,
    h'.failingBuilds.trans h.failingBuilds, h'.heldJobs.trans h.heldJobs,
    h'.unavailable.trans h.unavailable⟩

theorem sameSetting_receive (c : SimulatedCluster) (request : Request) :
    SameSetting c (c.receive request) := ⟨rfl, rfl, rfl, rfl, rfl, rfl, rfl⟩

theorem startPod_eq (c : SimulatedCluster) (kind : ResourceKind) (name processName : String) :
    c.startPod kind name processName = { c with pods := podsWith c.pods kind name processName } := by
  rw [SimulatedCluster.startPod, podsWith]
  split <;> rename_i h <;> simp only [h]

theorem remove_of_there {c : SimulatedCluster} {kind : ResourceKind} {name : String}
    (there : (c.objects.get kind).contains name = true) :
    ∃ document, c.remove kind name = (.ok document,
      { c with
        objects := c.objects.set kind ((c.objects.get kind).erase name)
        pods := podsWithout c.pods kind name }) := by
  refine ⟨.json (.mk [("kind", .string "Status"), ("status", .string "Success")]), ?_⟩
  rw [SimulatedCluster.remove, if_pos there, podsWithout]
  cases podOwner? kind <;> rfl

/-- A cluster holds what another does, except that this stands in place of one object and of the pods
with its label. -/
structure SameBut (t : Template) (object : Option StoredObject) (own : String → Json → Prop)
    (c c' : SimulatedCluster) : Prop where
  object : (c'.objects.get t.kind).get? t.name = object
  others : ∀ kind name, ¬ (kind = t.kind ∧ name = t.name) →
    (c'.objects.get kind).get? name = (c.objects.get kind).get? name
  pods : ∀ key pod, c'.pods.get? key = some pod ↔
    own key pod ∨ c.pods.get? key = some pod ∧ ¬ Backs t pod
  setting : SameSetting c c'

/-- No pod at all. -/
def NoPod (_ : String) (_ : Json) : Prop := False

/-- How far work on an object has come that began on another cluster. -/
structure Stage (ns : String) (t : Template) (count : Nat) (object : Option StoredObject)
    (own : String → Json → Prop) (c c' : SimulatedCluster) : Prop extends SameBut t object own c c' where
  reached : Reached ns c'
  conflicts : c'.conflicts = c.conflicts.set t.kind count
  backing : ∀ key pod, own key pod → Backs t pod

/-- Without the pods of an object there are those that do not have its label. -/
theorem get?_podsWithout {pods : Dict String Json} {t : Template} {key : String} {pod : Json} :
    (podsWithout pods t.kind t.name).get? key = some pod ↔
      pods.get? key = some pod ∧ ¬ Backs t pod := by
  rw [podsWithout]
  cases owner : podOwner? t.kind with
  | none =>
      have unmarked : ¬ Backs t pod := by
        rintro ⟨label, ending, owner', -⟩
        cases owner.symm.trans owner'
      exact ⟨fun hp => ⟨hp, unmarked⟩, And.left⟩
  | some mark =>
      obtain ⟨label, ending⟩ := mark
      dsimp only
      rw [Dict.get?_filter, Option.filter_eq_some_iff, backs_iff_label owner]
      simp

theorem IsNewPod.backs {t : Template} {key : String} {pod : Json} (h : IsNewPod t key pod) :
    Backs t pod := by
  obtain ⟨label, ending, owner, rfl, rfl⟩ := h
  refine ⟨label, ending, owner, ?_⟩
  rw [(podOf_newPod t.name _ owner).marks t.kind label ending owner, if_pos rfl]

section

variable {ns : String} {t : Template} {c c' : SimulatedCluster} {count : Nat}
  {object : Option StoredObject} {own : String → Json → Prop}

theorem conflicts_of_count (h : c.conflicts.get t.kind = count) :
    c.conflicts = c.conflicts.set t.kind count := by
  subst h
  cases t.kind <;> rfl

/-- Before anything was asked. -/
theorem stage_start (reached : Reached ns c) :
    Stage ns t (c.conflicts.get t.kind) ((c.objects.get t.kind).get? t.name)
      (fun key pod => c.pods.get? key = some pod ∧ Backs t pod) c c where
  object := rfl
  others _ _ _ := rfl
  pods key pod := by
    by_cases hb : Backs t pod <;> simp [hb]
  setting := ⟨rfl, rfl, rfl, rfl, rfl, rfl, rfl⟩
  reached := reached
  conflicts := conflicts_of_count rfl
  backing _ _ h := h.2

namespace Stage

/-- What a request leaves where only the counts of what is refused, the objects and the pods change. -/
theorem of_answer (h : Stage ns t count object own c c') {count' : Nat} {object' : Option StoredObject}
    {own' : String → Json → Prop} {request : Request} {reply : Reply} {c'' : SimulatedCluster}
    (answered : c'.answer request = (reply, c'')) (setting : SameSetting c' c'')
    (conflicts : c''.conflicts = c'.conflicts.set t.kind count')
    (there : (c''.objects.get t.kind).get? t.name = object')
    (others : ∀ kind name, ¬ (kind = t.kind ∧ name = t.name) →
      (c''.objects.get kind).get? name = (c'.objects.get kind).get? name)
    (pods : ∀ key pod, c''.pods.get? key = some pod ↔ own' key pod ∨ c.pods.get? key = some pod ∧ ¬ Backs t pod)
    (backing : ∀ key pod, own' key pod → Backs t pod) : Stage ns t count' object' own' c c'' where
  object := there
  others kind name hn := (others kind name hn).trans (h.others kind name hn)
  pods := pods
  setting := h.setting.trans setting
  reached := by
    have reached := h.reached.answered request
    rwa [answered] at reached
  conflicts := by
    rw [conflicts, h.conflicts]
    cases t.kind <;> rfl
  backing := backing

theorem count_eq (h : Stage ns t count object own c c') : c'.conflicts.get t.kind = count := by
  rw [h.conflicts, ByKind.get_set, if_pos rfl]

/-- A request that leaves everything as it is. -/
theorem of_quiet (h : Stage ns t count object own c c') {request : Request} {reply : Reply}
    (answered : c'.answer request = (reply, c'.receive request)) :
    Stage ns t count object own c (c'.receive request) :=
  h.of_answer answered (sameSetting_receive c' request) (conflicts_of_count h.count_eq) h.object
    (fun _ _ _ => rfl) h.pods h.backing

/-- The pods that an object has are those with the name that its pod gets. -/
theorem backs_iff (h : Stage ns t count object own c c') (sole : Sole t) {key : String} {pod : Json}
    (hp : c'.pods.get? key = some pod) {label ending : String}
    (owner : podOwner? t.kind = some (label, ending)) : Backs t pod ↔ key = t.name ++ ending := by
  rw [← h.reached.owned.marked_iff hp owner sole.nonempty, backs_iff_label owner]

/-- An object that is not there has no pod. -/
theorem podless (h : Stage ns t count none own c c') (sole : Sole t) {key : String} {pod : Json} :
    ¬ own key pod := by
  intro ho
  obtain ⟨label, ending, owner, marked⟩ := h.backing key pod ho
  have there := h.reached.owned.there ((h.pods key pod).2 (.inl ho)) owner sole.nonempty marked
  rw [h.object] at there
  cases there

/-- Nothing but its pods is missing where an object is not there. -/
theorem pods_bare (h : Stage ns t count none own c c') (sole : Sole t) {key : String} {pod : Json} :
    c'.pods.get? key = some pod ↔ c.pods.get? key = some pod ∧ ¬ Backs t pod := by
  rw [h.pods]
  exact ⟨fun hp => hp.resolve_left (h.podless sole), .inr⟩

/-- The pod of a new object begins under a name that no other pod can have. -/
theorem pods_begun (h : Stage ns t count none own c c') (sole : Sole t) {key : String} {pod : Json} :
    (podsWith c'.pods t.kind t.name (labelOf processLabel t.document)).get? key = some pod ↔
      IsNewPod t key pod ∨ c'.pods.get? key = some pod := by
  rw [podsWith]
  cases owner : podOwner? t.kind with
  | none =>
      have old : ¬ IsNewPod t key pod := by
        rintro ⟨label, ending, owner', -⟩
        cases owner.symm.trans owner'
      exact ⟨.inr, fun hp => hp.resolve_left old⟩
  | some mark =>
      obtain ⟨label, ending⟩ := mark
      dsimp only
      rw [Dict.get?_insert]
      split
      case isTrue hk =>
        subst hk
        constructor
        · intro new
          cases new
          exact .inl ⟨label, ending, owner, rfl, rfl⟩
        · rintro (⟨label', ending', owner', -, rfl⟩ | hp)
          · cases owner.symm.trans owner'
            rfl
          · exact absurd ((h.backs_iff sole hp owner).2 rfl) ((h.pods_bare sole).1 hp).2
      case isFalse hk =>
        refine ⟨.inr, fun hp => hp.resolve_left ?_⟩
        rintro ⟨label', ending', owner', heq, -⟩
        cases owner.symm.trans owner'
        exact hk heq

/-! ### Requests -/

variable (available : c.unavailable = false) (hns : '?' ∉ ns.toList) (sole : Sole t)

include available in
theorem answer_eq (h : Stage ns t count object own c c') {request : Request}
    (plane : request.api = .controlPlane) :
    c'.answer request =
      (c'.receive request).controlReply request :=
  SimulatedCluster.answer_of_available (h.setting.unavailable.trans available) plane

include available hns

theorem answer_post (h : Stage ns t count object own c c') :
    c'.answer (.post (t.kind.collectionPath ns) t.document) =
      (c'.receive (.post (t.kind.collectionPath ns) t.document)).create t.kind (some t.document) := by
  have route : Route.ofPath c'.ns (t.kind.collectionPath ns) = .collection t.kind none := by
    rw [h.reached.sound.1]
    exact Route.ofPath_collectionPath hns t.kind
  rw [h.answer_eq available rfl]
  simp [SimulatedCluster.controlReply, Request.post, route]

include sole

/-- A creation is refused while one is to be refused or an object has the name. -/
theorem post_refused (stands : 0 < count ∨ object ≠ none) (h : Stage ns t count object own c c') :
    ∃ reply c'', c'.answer (.post (t.kind.collectionPath ns) t.document) = (reply, c'') ∧
      (∃ body, reply = .error (.api 409 body)) ∧ Stage ns t (count - 1) object own c c'' := by
  have answered := h.answer_post available hns
  unfold SimulatedCluster.create at answered
  dsimp only at answered
  rw [SimulatedCluster.conflicts_receive, SimulatedCluster.objects_receive, h.count_eq] at answered
  by_cases pending : 0 < count
  · rw [if_pos pending] at answered
    exact ⟨_, _, answered, ⟨_, rfl⟩, h.of_answer answered ⟨rfl, rfl, rfl, rfl, rfl, rfl, rfl⟩ rfl h.object
      (fun _ _ _ => rfl) h.pods h.backing⟩
  · have there : object ≠ none := stands.resolve_left pending
    have found : (c'.objects.get t.kind).contains t.name = true := by
      rw [Dict.contains, h.object]
      exact Option.isSome_iff_ne_none.2 there
    have spent : count - 1 = count := by omega
    rw [if_neg pending, sole.named] at answered
    dsimp only at answered
    rw [if_pos found] at answered
    refine ⟨_, _, answered, ⟨_, rfl⟩, ?_⟩
    rw [spent]
    exact h.of_quiet answered

/-- A creation succeeds where none is to be refused and nothing has the name, and the new object has one
new pod if its kind has pods. -/
theorem post_accepted (h : Stage ns t 0 none own c c') :
    ∃ reply c'', c'.answer (.post (t.kind.collectionPath ns) t.document) = (reply, c'') ∧
      reply.isOk = true ∧
      Stage ns t 0 (some ⟨initialDocument t.kind t.document, 0⟩) (IsNewPod t) c c'' := by
  have answered := h.answer_post available hns
  have missing : ¬ (c'.objects.get t.kind).contains t.name = true := by
    rw [Dict.contains, h.object]
    exact Bool.false_ne_true
  unfold SimulatedCluster.create at answered
  dsimp only at answered
  rw [SimulatedCluster.conflicts_receive, SimulatedCluster.objects_receive, h.count_eq, if_neg (Nat.lt_irrefl 0), sole.named] at answered
  dsimp only at answered
  rw [if_neg missing] at answered
  rw [startPod_eq] at answered
  refine ⟨_, _, answered, rfl, h.of_answer answered ⟨rfl, rfl, rfl, rfl, rfl, rfl, rfl⟩
    (conflicts_of_count h.count_eq) ?_ (fun kind name hn => ?_) (fun key pod => ?_) fun _ _ => IsNewPod.backs⟩
  · rw [SimulatedCluster.get?_putObject, if_pos ⟨rfl, rfl⟩]
  · rw [SimulatedCluster.get?_putObject, if_neg hn]
    rfl
  · rw [← h.pods_bare sole, ← h.pods_begun sole]
    rfl

/-- A deletion leaves nothing of an object, whether it was there or not. -/
theorem deleted (h : Stage ns t count object own c c') :
    ∃ reply c'', c'.answer (.delete (t.kind.instancePath ns t.name)) = (reply, c'') ∧
      Calling.isGone reply = true ∧ Stage ns t count none NoPod c c'' := by
  have route : Route.ofPath c'.ns (t.kind.instancePath ns t.name) = .object t.kind t.name := by
    rw [h.reached.sound.1]
    exact Route.ofPath_instancePath hns t.kind sole.label
  have answered : c'.answer (.delete (t.kind.instancePath ns t.name)) =
      (c'.receive (.delete (t.kind.instancePath ns t.name))).remove t.kind t.name := by
    rw [h.answer_eq available rfl]
    simp [SimulatedCluster.controlReply, Request.delete, route]
  by_cases there : (c'.objects.get t.kind).contains t.name = true
  · obtain ⟨document, removed⟩ := remove_of_there
      (c := c'.receive (.delete (t.kind.instancePath ns t.name))) there
    rw [removed] at answered
    refine ⟨_, _, answered, rfl, h.of_answer answered ⟨rfl, rfl, rfl, rfl, rfl, rfl, rfl⟩
      (conflicts_of_count h.count_eq) ?_ (fun kind name hn => ?_) (fun key pod => ?_) fun _ _ => False.elim⟩
    · dsimp only
      rw [ByKind.get_set, if_pos rfl, Dict.get?_erase, if_pos rfl]
    · dsimp only
      rw [ByKind.get_set]
      split
      · rename_i hk
        rw [Dict.get?_erase, if_neg fun heq => hn ⟨hk, heq⟩, hk]
        rfl
      · rfl
    · dsimp only
      rw [SimulatedCluster.pods_receive, get?_podsWithout, h.pods]
      constructor
      · rintro ⟨hp | hp, unmarked⟩
        · exact absurd (h.backing key pod hp) unmarked
        · exact .inr hp
      · rintro (hp | hp)
        · exact hp.elim
        · exact ⟨.inr hp, hp.2⟩
  · have absent : object = none := by
      rwa [Dict.contains, Option.not_isSome_iff_eq_none, h.object] at there
    subst absent
    rw [SimulatedCluster.remove, SimulatedCluster.objects_receive, if_neg there] at answered
    have bare := h.of_quiet answered
    refine ⟨_, _, answered, rfl, { bare with pods := fun key pod => ?_, backing := fun _ _ => False.elim }⟩
    rw [bare.pods_bare sole]
    exact ⟨.inr, fun hp => hp.resolve_left id⟩

/-- A listing finds no pod of an object that is not there. -/
theorem listed_empty (h : Stage ns t count none own c c') {selector : String}
    (selects : t.podSelector = some selector) :
    ∃ reply c'', c'.answer (.get (listPath (podsPath ns) selector)) = (reply, c'') ∧
      Calling.listed reply = .ok [] ∧ Stage ns t count none own c c'' := by
  rw [sole.selector] at selects
  obtain ⟨⟨label, ending⟩, owner, rfl⟩ := Option.map_eq_some_iff.1 selects
  have plain : '=' ∉ label.toList := by
    cases hk : t.kind <;> rw [hk] at owner <;> cases owner <;> decide +kernel
  have route : Route.ofPath c'.ns (listPath (podsPath ns) (selectorOf label t.name)) =
      .pods (some (label, t.name)) := by
    rw [h.reached.sound.1]
    exact Route.ofPath_listPods hns plain
  have answered : c'.answer (.get (listPath (podsPath ns) (selectorOf label t.name))) =
      (listing "PodList" c'.pods.values (some (label, t.name)),
        c'.receive (.get (listPath (podsPath ns) (selectorOf label t.name)))) := by
    rw [h.answer_eq available rfl]
    simp [SimulatedCluster.controlReply, Request.get, route]
  refine ⟨_, _, answered, ?_, h.of_quiet answered⟩
  rw [listed_listing, List.filter_eq_nil_iff.2 fun pod hp marked => ?_]
  obtain ⟨key, there⟩ := Dict.mem_values.1 hp
  exact ((h.pods_bare sole).1 there).2 ((backs_iff_label owner).2 (of_decide_eq_true marked))

/-- A look at an object that is not there finds nothing. -/
theorem looked_absent (h : Stage ns t count none own c c') :
    ∃ reply c'', c'.answer (.get (t.kind.instancePath ns t.name)) = (reply, c'') ∧
      reply = notFound ∧ Stage ns t count none own c c'' := by
  have route : Route.ofPath c'.ns (t.kind.instancePath ns t.name) = .object t.kind t.name := by
    rw [h.reached.sound.1]
    exact Route.ofPath_instancePath hns t.kind sole.label
  have answered : c'.answer (.get (t.kind.instancePath ns t.name)) =
      (notFound, c'.receive (.get (t.kind.instancePath ns t.name))) := by
    rw [h.answer_eq available rfl]
    simp [SimulatedCluster.controlReply, Request.get, SimulatedCluster.ns_receive, route,
      SimulatedCluster.observe, h.object]
  exact ⟨_, _, answered, rfl, h.of_quiet answered⟩

end Stage

/-! ### Deleting and creating -/

variable (available : c.unavailable = false) (hns : '?' ∉ ns.toList) (sole : Sole t)
include available hns sole

/-- An object and its pods are removed, and there is none of them to be removed one after the other. -/
theorem removing_stage (count : Nat) (object : Option StoredObject) (own : String → Json → Prop) :
    Resource.Removing serving ns t (Stage ns t count object own c) (fun _ => False)
      fun pods c' => (∀ reply, pods = some reply → Calling.listed reply = .ok []) ∧
        Stage ns t count none NoPod c c' where
  object := by
    refine fun c' h => ⟨trivial, fun reply c'' moved => ?_⟩
    obtain ⟨_, step⟩ := step_of_answer (fun c' h => Stage.deleted available hns sole h) c' h
    obtain ⟨gone, h'⟩ := step reply c'' moved
    rw [if_pos gone]
    refine ⟨fun reply hr => ?_, h'⟩
    cases hr
  list selector hs := by
    refine fun c' h => ⟨trivial, fun pods c'' moved => ?_⟩
    obtain ⟨_, step⟩ := step_of_answer (fun c' h => Stage.listed_empty available hns sole h hs) c' h.2
    obtain ⟨listed, h'⟩ := step pods c'' moved
    refine ⟨fun reply hr => ?_, h'⟩
    cases hr
    exact listed
  pod selector pods items name hs listed hm := by
    intro c' h
    cases listed.symm.trans (h.1 pods rfl)
    cases hm

variable {r : Resource} {w : Watch} (ht : r.template = t)
include ht

theorem removeAll_stage (h : Stage ns t count object own c c') :
    MeetsOr serving (Resource.removeAll ns r) c' (fun _ => Stage ns t count none NoPod c)
      fun _ _ => False := by
  refine (Resource.meetsOr_removeAll (removing_stage available hns sole count object own) ht h).mono
    (fun _ c'' removed => ?_) fun _ c'' lost => ?_
  · obtain ⟨_, gone⟩ := removed
    exact gone.2
  · obtain broken | ⟨pods, gone, more⟩ := lost
    · exact broken
    · exact more (gone.1 pods rfl)

/-- A deletion leaves nothing of an object, and never fails. -/
theorem delete_stage (h : Stage ns t count object own c c') :
    MeetsWith serving (Resource.delete ns) r c'
      (fun _ r' c'' => r'.template = t ∧ Stage ns t count none NoPod c c'') fun _ _ _ => False :=
  (Resource.meetsWith_delete_of_removeAll (removeAll_stage available hns sole ht h)).mono
    (fun _ _ _ h => ⟨h.1 ▸ ht, h.2⟩) fun _ _ _ lost => lost.2

variable (time : 0 < w.timeout)
include time

/-- The first look finds that an object that was removed is gone. -/
theorem waitGone_stage (h : Stage ns t count none own c c') :
    MeetsOr serving (Resource.waitGone ns w r) c' (fun _ => Stage ns t count none own c)
      fun _ _ => False := by
  have path : r.path ns = t.kind.instancePath ns t.name := by rw [← ht]; rfl
  rw [Resource.waitGone_eq, path]
  refine Watch.meets_guarded_of_first (C := .failing serving fun _ _ => False)
    (D := Stage ns t count none own c) (Q := fun _ => Stage ns t count none own c) time ?_ fun c' h => ?_
  · exact Calculus.meets_failing.2 (meetsOr_liftM.2 (step_untripped (Stage ns t count none own c) 0 c' h))
  · obtain ⟨_, step⟩ := step_of_answer (fun c' h => Stage.looked_absent available hns sole h) c' h
    refine Calculus.meets_failing.2 (Resource.meetsOr_goneLook.2 ⟨trivial, fun reply c'' moved => ?_⟩)
    obtain ⟨rfl, h'⟩ := step reply c'' moved
    exact ⟨(), rfl, h'⟩

/-- What stands in the way of a new object is removed, and then nothing does. -/
theorem replace_stage (h : Stage ns t 0 object own c c') :
    MeetsWith serving (Resource.replace ns w) r c'
      (fun _ r' c'' => r'.template = t ∧
        Stage ns t 0 (some ⟨initialDocument t.kind t.document, 0⟩) (IsNewPod t) c c'')
      fun _ r' _ => r'.template = t ∧ False := by
  refine Resource.meetsWith_replace_of_waitGone ht (removeAll_stage available hns sole ht h)
    (fun c' h => waitGone_stage available hns sole ht time h) fun c' h => ⟨trivial, fun reply c'' moved => ?_⟩
  obtain ⟨_, step⟩ := step_of_answer (fun c' h => Stage.post_accepted available hns sole h) c' h
  obtain ⟨ok, h'⟩ := step reply c'' moved
  rw [if_pos ok]
  exact h'

/-- A submission that may be refused once leaves the new object, and never fails. -/
theorem submit_stage (few : count ≤ 1) (h : Stage ns t count object own c c') :
    MeetsWith serving (Resource.submit ns w) r c'
      (fun _ r' c'' => r'.template = t ∧
        Stage ns t 0 (some ⟨initialDocument t.kind t.document, 0⟩) (IsNewPod t) c c'')
      fun _ r' _ => r'.template = t ∧ False := by
  refine Resource.meetsWith_submit_of_replace (fun c' => ∃ object own, Stage ns t 0 object own c c') ht
    (fun c' h => ?post) (fun _ c' refused => ?replace) h
  case replace =>
    obtain ⟨_, _, h⟩ := refused
    exact replace_stage available hns sole ht time h
  case post =>
    refine ⟨trivial, fun reply c'' moved => ?_⟩
    by_cases stands : 0 < count ∨ object ≠ none
    · obtain ⟨_, step⟩ := step_of_answer (fun c' h => Stage.post_refused available hns sole stands h) c' h
      obtain ⟨⟨body, rfl⟩, h'⟩ := step reply c'' moved
      have spent : count - 1 = 0 := by omega
      rw [spent] at h'
      rw [sole.unshared]
      exact ⟨object, own, h'⟩
    · obtain ⟨none, rfl⟩ : count = 0 ∧ object = none := by
        rw [not_or, not_lt, Nat.le_zero, not_not] at stands
        exact stands
      subst none
      obtain ⟨_, step⟩ := step_of_answer (fun c' h => Stage.post_accepted available hns sole h) c' h
      obtain ⟨ok, h'⟩ := step reply c'' moved
      cases reply with
      | ok document => exact h'
      | error e => cases ok

/-- A creation that does not wait is a submission. -/
theorem create_stage (few : count ≤ 1) (h : Stage ns t count object own c c') :
    MeetsWith serving (Resource.create ns false w) r c'
      (fun _ r' c'' => r'.template = t ∧
        Stage ns t 0 (some ⟨initialDocument t.kind t.document, 0⟩) (IsNewPod t) c c'')
      fun _ _ _ => False := by
  have submit := submit_stage available hns sole ht time few h
  rw [Resource.create, meetsWith_bind]
  refine submit.mono (fun _ r' c'' h' => ?_) fun _ _ _ lost => lost.2
  rw [meetsWith_modify_bind, if_neg Bool.false_ne_true]
  exact h'

end

/-! ### The whole life of an object -/

theorem ByKind.ext_get {α : Type} {d e : ByKind α} (h : ∀ kind, d.get kind = e.get kind) : d = e := by
  obtain ⟨volume, imageStream, build, config, batchJob⟩ := d
  have hv : volume = e.volume := h .volume
  have hs : imageStream = e.imageStream := h .imageStream
  have hb : build = e.build := h .build
  have hc : config = e.config := h .config
  have hj : batchJob = e.batchJob := h .batchJob
  rw [hv, hs, hb, hc, hj]

/-- Where neither an object nor a pod of it was, a cluster without them holds the same. -/
theorem eq_of_sameBut {c c' : SimulatedCluster} {t : Template} (h : SameBut t none NoPod c c')
    (absent : (c.objects.get t.kind).get? t.name = none)
    (bare : ∀ key pod, c.pods.get? key = some pod → ¬ Backs t pod) (conflicts : c'.conflicts = c.conflicts) :
    c' = { c with received := c'.received } := by
  have objects : c'.objects = c.objects := by
    refine ByKind.ext_get fun kind => Dict.ext_get? fun name => ?_
    by_cases own : kind = t.kind ∧ name = t.name
    · rw [own.1, own.2, h.object, absent]
    · exact h.others kind name own
  have pods : c'.pods = c.pods := by
    refine Dict.ext_get? fun key => Option.ext fun pod => ?_
    rw [h.pods]
    exact ⟨fun hp => (hp.resolve_left id).1, fun hp => .inr ⟨hp, bare key pod hp⟩⟩
  obtain ⟨ns, looks, logs, failingJobs, failingBuilds, heldJobs, unavailable⟩ := h.setting
  rw [← objects, ← pods, ← conflicts, ← ns, ← looks, ← logs, ← failingJobs, ← failingBuilds, ← heldJobs,
    ← unavailable]

/-- On a cluster that answers, whatever stands in it, the object of a task is created and deleted without
fail even where one creation is to be refused. Created it is the template's, as a new object, with one new
pod if its kind has pods; deleted it is gone with its pods; nothing else changes. Deleting it again changes
nothing. -/
theorem create_delete_exact {ns : String} {c : SimulatedCluster} {t : Template} {r : Resource} {w : Watch}
    (hns : '?' ∉ ns.toList) (reached : Reached ns c) (available : c.unavailable = false)
    (few : c.conflicts.get t.kind ≤ 1) (task : OfTask t) (ht : r.template = t) (time : 0 < w.timeout) :
    ∃ created c₁ deleted c₂ again c₃,
      managed (Resource.create ns false w) r c = ((.ok (), created), c₁) ∧
      SameBut t (some ⟨initialDocument t.kind t.document, 0⟩) (IsNewPod t) c c₁ ∧
      c₁.conflicts = c.conflicts.set t.kind 0 ∧
      managed (Resource.delete ns) created c₁ = ((.ok (), deleted), c₂) ∧
      SameBut t none NoPod c₁ c₂ ∧ c₂.conflicts = c₁.conflicts ∧
      managed (Resource.delete ns) deleted c₂ = ((.ok (), again), c₃) ∧
      c₃ = { c₂ with received := c₃.received } := by
  have sole := task.sole
  obtain ⟨_, created, c₁, managed₁, ht₁, h₁⟩ := managed_of_meets
    (create_stage available hns sole ht time few (stage_start reached))
  have available₁ : c₁.unavailable = false := h₁.setting.unavailable.trans available
  obtain ⟨_, deleted, c₂, managed₂, ht₂, h₂⟩ := managed_of_meets
    (delete_stage available₁ hns sole ht₁ (stage_start h₁.reached))
  have available₂ : c₂.unavailable = false := h₂.setting.unavailable.trans available₁
  obtain ⟨_, again, c₃, managed₃, ht₃, h₃⟩ := managed_of_meets
    (delete_stage available₂ hns sole ht₂ (stage_start h₂.reached))
  refine ⟨created, c₁, deleted, c₂, again, c₃, managed₁, h₁.toSameBut, h₁.conflicts, managed₂,
    h₂.toSameBut, ?_, managed₃, ?_⟩
  · rw [h₂.conflicts, ← conflicts_of_count rfl]
  · refine eq_of_sameBut h₃.toSameBut h₂.object (fun key pod hp => ?_) ?_
    · exact (((h₂.pods key pod).1 hp).resolve_left id).2
    · rw [h₃.conflicts, ← conflicts_of_count rfl]

/-- The build of a task, and a cluster in which one has its name already and another creation is refused
once. -/
def standingBuild : Template :=
  (BuildTemplate.forTask "j" "a" "edges" (.forProcess "edges") ⟨"uri", "main", some "edges"⟩).template

def standingStart : SimulatedCluster :=
  ((SimulatedCluster.empty "shop" 2).insertObject .build standingBuild.document).injectConflicts .build 1

theorem create_delete_exact_sample :
    '?' ∉ "shop".toList ∧ Reached "shop" standingStart ∧ standingStart.unavailable = false ∧
    standingStart.conflicts.get standingBuild.kind ≤ 1 ∧ OfTask standingBuild ∧
    (Resource.ofTemplate standingBuild).template = standingBuild ∧ 0 < (⟨0, 1⟩ : Watch).timeout ∧
    ∃ created c₁ deleted c₂ again c₃,
      managed (Resource.create "shop" false ⟨0, 1⟩) (.ofTemplate standingBuild) standingStart =
        ((.ok (), created), c₁) ∧
      SameBut standingBuild (some ⟨initialDocument standingBuild.kind standingBuild.document, 0⟩)
        (IsNewPod standingBuild) standingStart c₁ ∧
      c₁.conflicts = standingStart.conflicts.set standingBuild.kind 0 ∧
      managed (Resource.delete "shop") created c₁ = ((.ok (), deleted), c₂) ∧
      SameBut standingBuild none NoPod c₁ c₂ ∧ c₂.conflicts = c₁.conflicts ∧
      managed (Resource.delete "shop") deleted c₂ = ((.ok (), again), c₃) ∧
      c₃ = { c₂ with received := c₃.received } := by
  have hns : '?' ∉ "shop".toList := by decide
  have reached : Reached "shop" standingStart :=
    ((Reached.empty 2).inserted .build standingBuild.document).arranged ⟨rfl, rfl, rfl⟩
  have few : standingStart.conflicts.get standingBuild.kind ≤ 1 := Nat.le_refl 1
  have task : OfTask standingBuild := .build ..
  exact ⟨hns, reached, rfl, few, task, rfl, Nat.one_pos,
    create_delete_exact hns reached rfl few task rfl Nat.one_pos⟩

end ImageryJobs.Simulation
