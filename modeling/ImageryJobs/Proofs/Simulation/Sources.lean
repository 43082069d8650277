import ImageryJobs.Proofs.Simulation.Provenance

/-!
What batch jobs run on a simulated cluster. Every stage of a task keeps what is known of image
streams; the build stage adds an image only once its own build was complete, and the batch job of a
task is created only after its stream was found to have one.
-/

namespace ImageryJobs.Simulation

open Engine (Under Owned)
open EngineScript (traffic)

variable {e : Engine} {jobs : List (String × List Task)} {jobId : String} {task : Task}
  {K : Situation → Prop} {w w' : Situation} {stream repository image : String} {t : Template} {r : Request}
  {reply : Reply}

/-! ### Calls -/

theorem moved_send (h : (provenance e jobs).within.moves w ⟨.send r, reply⟩ w') :
    ∃ c, w' = (w.1 ++ [⟨.cluster (.send r), reply⟩], c) ∧ Answered w.2 r reply c := by
  obtain ⟨log, c, same, heq, hc⟩ := h
  refine ⟨w'.2, Prod.ext log rfl, ?_⟩
  have heq : reply = (c.answer r).1 := heq
  rw [heq, hc]
  exact answered same

theorem completes_send {name : String} {x : Exchange}
    (hx : x ∈ traffic [(⟨.cluster (.send r), reply⟩ : Event engineInterface)])
    (h : Completes e.ns name stream x) : Completes e.ns name stream ⟨r, reply⟩ := by
  cases hx with
  | head => exact h
  | tail _ hx => cases hx

theorem not_completes_error {cause : ClusterError} {name : String} {x : Exchange}
    (hx : x ∈ traffic [(⟨.cluster (.send r), .error cause⟩ : Event engineInterface)]) :
    ¬ Completes e.ns name stream x := by
  intro completes
  obtain ⟨-, document, -, hr, -⟩ := completes_send hx completes
  cases hr

theorem route_instance {c : SimulatedCluster} {ns name : String} (hns : c.ns = ns) (kind : ResourceKind)
    (hn : IsLabel name) :
    Route.ofPath c.ns (kind.instancePath ns name) = .object kind name ∨
      Route.ofPath c.ns (kind.instancePath ns name) = .unknown := by
  subst hns
  exact Route.ofPath_instance _ kind hn

theorem route_buildPods {c : SimulatedCluster} {ns : String} (hns : c.ns = ns) (name : String) :
    Route.ofPath c.ns (listPath (podsPath ns) (selectorOf buildPodLabel name)) =
        .pods (some (buildPodLabel, name)) ∨
      Route.ofPath c.ns (listPath (podsPath ns) (selectorOf buildPodLabel name)) = .unknown := by
  subst hns
  have label : '=' ∉ buildPodLabel.toList := by decide +kernel
  exact Route.ofPath_or_unknown fun hns => Route.ofPath_listPods hns label

variable (jobs) in
theorem known_send (calm : Calm e.ns r) (hk : Lasting e K)
    (allowed : ∀ w, Known e K w → ∀ document,
      r = .post (ResourceKind.batchJob.collectionPath e.ns) document → RunsProvided e jobs document w) :
    (provenance e jobs).within.Preserves (Known e K) (.send r) := by
  intro w hw
  refine ⟨fun document heq => ?_, fun reply w' moved => ?_⟩
  · cases heq
    exact allowed w hw document rfl
  · obtain ⟨c, rfl, answered⟩ := moved_send moved
    obtain ⟨traced, carried⟩ := hw.1.kept answered.ns (answered.podsSound hw.1.pods)
      (answered.streamsKept (hw.1.ns.symm ▸ calm)) fun x hx name stream completes =>
        calm.look name (completes_send hx completes).1
    exact ⟨traced, hk w _ ⟨.send r, reply⟩ rfl carried hw.2⟩

theorem known_read {path : String} (calm : Calm e.ns (.get path)) (hk : Lasting e K) :
    (provenance e jobs).within.Preserves (Known e K) (.send (.get path)) :=
  known_send jobs calm hk fun _ _ _ => nofun

variable (jobs) in
theorem known_pause (hk : Lasting e K) (span : Millis) :
    (provenance e jobs).within.Preserves (Known e K) (.pause span) := by
  intro w hw
  refine ⟨fun _ => nofun, fun tripped w' moved => ?_⟩
  obtain ⟨log, c⟩ := w'
  obtain ⟨rfl, same⟩ := moved
  have quiet : traffic [EngineScript.ofClusterEvent ⟨.pause span, tripped⟩] = [] := rfl
  obtain ⟨traced, carried⟩ := hw.1.same same (by rw [quiet]; nofun)
  exact ⟨traced, hk w _ ⟨.pause span, tripped⟩ rfl carried hw.2⟩

theorem calm_listOwn {selector : String} (h : selector ∈ Engine.ownSelectors jobId task) :
    Calm e.ns (.get (listPath (podsPath e.ns) selector)) := by
  have marks : '=' ∉ buildPodLabel.toList ∧ '=' ∉ batchPodLabel.toList := by decide +kernel
  simp only [Engine.ownSelectors, List.mem_cons, List.not_mem_nil, or_false] at h
  obtain rfl | rfl := h
  · exact calm_listPods marks.1
  · exact calm_listPods marks.2

theorem calm_inspect (ho : e.Owned jobId task t) (h : Resource.Inspects e.ns t r) : Calm e.ns r := by
  obtain ⟨selector, hs, rfl⟩ | ⟨pod, rfl⟩ := h
  · exact calm_listOwn (ho.selector selector hs)
  · exact calm_getLog pod

theorem isLabel_owned (ho : e.Owned jobId task t) : IsLabel t.name := by
  rw [ho.name]
  exact isLabel_objectName t.kind jobId task.id

theorem not_stream (ho : e.Owned jobId task t) : t.kind ≠ .imageStream := by
  intro hk
  have own := ho.kind
  rw [hk] at own
  simp [Engine.ownKinds] at own

theorem known_inspect (ho : e.Owned jobId task t) (hk : Lasting e K)
    (h : Resource.Inspects e.ns t r) :
    (provenance e jobs).within.Preserves (Known e K) (.send r) := by
  refine known_send jobs (calm_inspect ho h) hk fun _ _ _ heq => ?_
  obtain ⟨_, _, rfl⟩ | ⟨_, rfl⟩ := h <;> cases heq

variable (jobs) in
theorem clearing_known (ho : e.Owned jobId task t) (hk : Lasting e K) :
    Resource.Clearing (provenance e jobs).within e.ns t (Known e K) (Known e K) :=
  .of_preserves (known_send jobs (calm_delete (not_stream ho) (isLabel_owned ho)) hk fun _ _ _ => nofun)
    (fun selector hs => known_read (calm_listOwn (ho.selector selector hs)) hk)
    fun _ name _ => known_send jobs (calm_deletePod name) hk fun _ _ _ => nofun

/-- The creation of an object that is not a build keeps what is known. -/
theorem create_known {r : Resource} {watch : Watch} (ho : e.Owned jobId task t) (hb : t.kind ≠ .build)
    (hk : Lasting e K)
    (allowed : ∀ w, Known e K w → t.kind = .batchJob → RunsProvided e jobs t.document w)
    (ht : r.template = t) (hw : Known e K w) :
    MeetsWith (provenance e jobs).within (Resource.create e.ns true watch) r w
      (fun _ r w => r.template = t ∧ Known e K w) fun _ r w => r.template = t ∧ Known e K w := by
  refine (Resource.meetsWith_create_of_preserves
    (known_send jobs (calm_post fun hs => absurd hs (not_stream ho)) hk fun w hw document heq => ?_)
    (known_read (calm_getObject hb (isLabel_owned ho)) hk)
    (fun selector hs => known_read (calm_listOwn (ho.selector selector hs)) hk) (known_pause jobs hk)
    (fun _ => clearing_known jobs ho hk) ht hw).mono (fun _ r w h => ⟨h.1, h.2.choose_spec.2⟩) fun _ _ _ h => h
  have path : t.kind = .batchJob := ResourceKind.collectionPath_inj (congrArg Request.path heq)
  obtain rfl := Option.some.inj (congrArg Request.body heq)
  exact allowed w hw path

/-! ### Streams -/

/-- What a look at a stream shows: a repository that the stream has, and an image only if it came
from the catalog. -/
def Shown (e : Engine) (stream : String) (object : Json) (w : Situation) : Prop :=
  (∀ repository, ImageStreamTemplate.repository? object = some repository →
    Served stream repository w.2) ∧
  (ImageStreamTemplate.isResolved object = true → FromCatalog e stream (traffic w.1))

theorem lasting_shown {object : Json} : Lasting e (Shown e stream object) :=
  fun w w' event log carried hw => ⟨fun repository hr => carried.served _ _ (hw.1 repository hr),
    fun resolved => lasting_fromCatalog w w' event log carried (hw.2 resolved)⟩

/-- What an answer shows of a stream. -/
def ShownBy (e : Engine) (stream : String) (reply : Reply) (w : Situation) : Prop :=
  ∀ document object, reply = .ok document → document.toJson = .ok object → Shown e stream object w

theorem Shown.provided {object : Json} (h : Shown e stream object w)
    (hi : ImageBuild.imageIn object = some image) : Provided e stream image w := by
  rw [ImageBuild.imageIn] at hi
  split at hi
  · rename_i resolved
    obtain ⟨repository, hr, rfl⟩ := Option.map_eq_some_iff.1 hi
    exact ⟨repository, rfl, h.1 repository hr, h.2 resolved⟩
  · cases hi

/-- A look at a stream, where `K` is known. -/
theorem look_stream (hk : Lasting e K) (hs : IsLabel stream) :
    (provenance e jobs).within.Step (Known e K)
      (.send (.get (ResourceKind.imageStream.instancePath e.ns stream))) fun (reply : Reply) =>
        Known e fun w => K w ∧ ShownBy e stream reply w := by
  intro w hw
  have calm : Calm e.ns (.get (ResourceKind.imageStream.instancePath e.ns stream)) :=
    calm_getObject nofun hs
  obtain ⟨allowed, kept⟩ := known_read calm hk w hw
  refine ⟨allowed, fun reply w' moved => ?_⟩
  obtain ⟨traced, hw'⟩ := kept reply w' moved
  refine ⟨traced, hw', fun document object hreply hd => ?_⟩
  obtain ⟨c, rfl, answered⟩ := moved_send moved
  have route := route_instance hw.1.ns .imageStream hs
  obtain ⟨-, _, hc⟩ | ⟨old, c₀, -, there, same, hc, rfl⟩ := answered.looked route
  · cases hc.symm.trans hreply
  · rw [← same.objects] at there
    have looked := SimulatedCluster.observe_stream there
    have stored : ((c₀.observe .imageStream stream).2.objects.get .imageStream).get? stream =
        some ⟨object, old.looks + 1⟩ := by
      rw [looked] at hc ⊢
      cases hc.symm.trans hreply
      cases hd
      rw [SimulatedCluster.get?_putObject, if_pos ⟨rfl, rfl⟩]
    exact ⟨fun repository hr => ⟨_, stored, hr⟩, (traced.streams stream _ stored).2⟩

theorem fetched_ok {object : Json} (h : Resource.fetched reply = .ok (some object)) :
    ∃ document, reply = .ok document ∧ document.toJson = .ok object := by
  unfold Resource.fetched at h
  cases reply with
  | error cause =>
      simp only [Except.bind] at h
      split at h <;> cases h
  | ok document =>
      cases hd : document.toJson with
      | ok object' =>
          simp only [Except.bind, hd] at h
          cases h
          exact ⟨document, rfl, hd⟩
      | error cause =>
          simp only [Except.bind, hd] at h
          split at h <;> cases h

theorem stream_path {b : ImageBuild} (hb : b.stream.template = Engine.streamOf task) :
    b.stream.path e.ns = ResourceKind.imageStream.instancePath e.ns (sanitizeName task.processId) := by
  rw [Resource.path, Resource.kind, Resource.name, hb]
  rfl

theorem existingImage_known {b : ImageBuild} (hb : b.stream.template = Engine.streamOf task)
    (known : ∃ spec, e.catalog.get? task.processId = some spec)
    (hw : Known e (fun w => Under task w.1) w) :
    MeetsOr (provenance e jobs).within (b.existingImage e.ns) w
      (fun found w => match found with
        | some image => Known e (Supplied e task image) w
        | none => Known e (fun w => Under task w.1) w)
      fun _ => Known e fun w => Under task w.1 := by
  rw [ImageBuild.meetsOr_existingImage, stream_path hb]
  obtain ⟨allowed, looked⟩ := look_stream lasting_under (isLabel_sanitizeName task.processId) w hw
  refine ⟨allowed, fun reply w' moved => ?_⟩
  obtain ⟨traced, under, shown⟩ := looked reply w' moved
  cases hf : Resource.fetched reply with
  | error cause => exact ⟨traced, under⟩
  | ok found =>
      dsimp only [Ending]
      cases hi : found.bind ImageBuild.imageIn with
      | none => exact ⟨traced, under⟩
      | some image =>
          obtain ⟨object, rfl, hi⟩ := Option.bind_eq_some_iff.1 hi
          obtain ⟨document, hr, hd⟩ := fetched_ok hf
          exact ⟨traced, under, known, (shown document object hr hd).provided hi⟩

theorem stream_submitting :
    Resource.Submitting (provenance e jobs).within e.ns (Engine.streamOf task)
      (Known e fun w => Under task w.1) (Known e fun w => Under task w.1)
      (Known e fun w => Under task w.1) (Known e fun w => Under task w.1) := by
  have fresh : HasStatus (Engine.streamOf task).document ∧
      ImageStreamTemplate.isResolved (Engine.streamOf task).document = false := by
    refine ⟨hasStatus_stream _, ?_⟩
    rw [ImageStreamTemplate.isResolved, Engine.streamOf, path?_stream]
    rfl
  have post : (provenance e jobs).within.Preserves (Known e fun w => Under task w.1)
      (.send (.post (ResourceKind.imageStream.collectionPath e.ns) (Engine.streamOf task).document)) := by
    refine known_send jobs (calm_post fun _ => fresh) lasting_under fun _ _ document heq => ?_
    cases ResourceKind.collectionPath_inj (congrArg Request.path heq)
  refine ⟨fun w hw => ?_, fun hs => by cases hs⟩
  obtain ⟨allowed, kept⟩ := post w hw
  refine ⟨allowed, fun reply w' moved => ?_⟩
  have hw' := kept reply w' moved
  cases reply with
  | ok _ => exact hw'
  | error cause => simpa only [ite_self] using hw'

theorem stream_watching :
    Watching (provenance e jobs).within e.ns (Engine.streamOf task)
      (fun _ => Known e fun w => Under task w.1) (fun _ => Known e fun w => Under task w.1)
      (fun _ reply _ => Known e fun w => Under task w.1 ∧ ShownBy e (sanitizeName task.processId) reply w)
      (Known e fun w => Under task w.1) := by
  refine ⟨fun _ span w hw => ?_, fun _ => ⟨?_, fun _ _ h => by cases h⟩, fun _ _ _ w h _ => ?_⟩
  · simpa only [ite_self] using known_pause jobs lasting_under span w hw
  · exact look_stream lasting_under (isLabel_sanitizeName task.processId)
  · obtain ⟨_, _, ⟨traced, under, -⟩, -⟩ := h
    exact ⟨traced, under⟩

theorem createStream_known {r : Resource} {watch : Watch} (ht : r.template = Engine.streamOf task)
    (hw : Known e (fun w => Under task w.1) w) :
    MeetsWith (provenance e jobs).within (Resource.create e.ns true watch) r w
      (fun _ r w => r.template = Engine.streamOf task ∧ ∃ object, r.observed = some object ∧
        Known e (fun w => Under task w.1 ∧ Shown e (sanitizeName task.processId) object w) w)
      fun _ _ => Known e fun w => Under task w.1 := by
  refine (Resource.meetsWith_create stream_submitting stream_watching (fun _ h => h) ht hw).mono
    (fun _ r w found => ?_) fun _ r w lost => ?_
  · obtain ⟨ht, _, object, ho, reply, pods, ⟨traced, under, shown⟩, _, judged⟩ := found
    obtain ⟨document, _, hr, hd, -⟩ := Template.judge_ok judged
    exact ⟨ht, object, ho, traced, under, shown document object hr hd⟩
  · obtain ⟨-, hw | hw | ⟨_, hw, -⟩ | ⟨_, _, _, hw, -⟩⟩ := lost
    · exact hw
    · exact hw
    · exact hw
    · exact ⟨hw.1, hw.2.1⟩

theorem awaitPeers_known {b : ImageBuild} {watch : Watch} {object : Json}
    (hb : b.stream.template = Engine.streamOf task)
    (known : ∃ spec, e.catalog.get? task.processId = some spec)
    (hw : Known e (fun w => Under task w.1 ∧ Shown e (sanitizeName task.processId) object w) w) :
    MeetsOr (provenance e jobs).within (b.awaitPeers e.ns watch) w
      (fun found w => match found with
        | some image => Known e (Supplied e task image) w
        | none => Known e (fun w => Under task w.1 ∧ Shown e (sanitizeName task.processId) object w) w)
      fun _ => Known e fun w => Under task w.1 := by
  let K : Situation → Prop := fun w => Under task w.1 ∧ Shown e (sanitizeName task.processId) object w
  have hk : Lasting e K := lasting_under.and lasting_shown
  have label : '=' ∉ processLabel.toList := by decide +kernel
  have awaiting : ImageBuild.Awaiting (provenance e jobs).within e.ns b (fun _ => Known e K)
      (fun _ => Known e K) (fun _ _ => Known e K)
      (fun _ _ reply => Known e fun w => K w ∧ ShownBy e (sanitizeName task.processId) reply w)
      (Known e K) := by
    refine ⟨fun _ span w hw => ?_, fun _ => known_read (calm_list label) hk, fun _ _ => ?_,
      fun _ _ _ _ w hw _ _ => ⟨hw.1, hw.2.1⟩⟩
    · simpa only [ite_self] using known_pause jobs hk span w hw
    · rw [stream_path hb]
      exact look_stream hk (isLabel_sanitizeName task.processId)
  refine (ImageBuild.meetsOr_awaitPeers awaiting hw).mono (fun found w awaited => ?_) fun _ w lost => ?_
  · obtain ⟨_, _, _, reply, stream, ⟨traced, hk, shown⟩, -, hf, hi, -⟩ := awaited
    cases found with
    | none => exact ⟨traced, hk⟩
    | some image =>
        obtain ⟨object', rfl, hi⟩ := Option.bind_eq_some_iff.1 hi
        obtain ⟨document, hr, hd⟩ := fetched_ok hf
        exact ⟨traced, hk.1, known, (shown document object' hr hd).provided hi⟩
  · obtain hw | ⟨_, hw, -⟩ | ⟨_, _, _, hw, -⟩ | ⟨_, _, _, _, hw, -⟩ := lost
    · exact ⟨hw.1, hw.2.1⟩
    · exact ⟨hw.1, hw.2.1⟩
    · exact ⟨hw.1, hw.2.1⟩
    · exact ⟨hw.1, hw.2.1.1⟩

/-! ### Builds -/

/-- A build with the sources that the catalog has for a process with the name of its stream. -/
structure Filed (e : Engine) (t : BuildTemplate) : Prop where
  label : IsLabel t.name
  named : t.name ≠ ""
  stream : ':' ∉ t.imageStream.toList
  entry : ∃ processId spec, e.catalog.get? processId = some spec ∧
    sanitizeName processId = t.imageStream ∧ t.source = spec.source

/-- A build is there that was created from its template, and if its pod succeeded the stream has an
image from the catalog. -/
structure Filling (e : Engine) (t : BuildTemplate) (w : Situation) : Prop where
  submitted : LastSubmitted e.ns t.name (traffic w.1) t.template.document
  object : ∃ object, (w.2.objects.get .build).get? t.name = some object ∧
    object.document.isObject = true ∧ SimulatedCluster.targetOf object.document = some t.imageStream
  pod : ∀ pod, w.2.pods.get? (t.name ++ "-build") = some pod →
    Template.phaseOf pod = some "Succeeded" → FromCatalog e t.imageStream (traffic w.1)

variable {t : BuildTemplate}

/-- The stream has an image from the catalog if an answer shows its build complete. -/
def CompleteBy (e : Engine) (stream : String) (reply : Reply) (w : Situation) : Prop :=
  ∀ document object, reply = .ok document → document.toJson = .ok object →
    Template.phaseOf object = some "Complete" → FromCatalog e stream (traffic w.1)

theorem lasting_completeBy (reply : Reply) : Lasting e (CompleteBy e stream reply) :=
  fun _ _ _ _ carried h document object hr hd hp => carried.source _ (h document object hr hd hp)

/-- The stream has an image from the catalog if an answer lists a pod of its build that succeeded. -/
def SucceededBy (e : Engine) (stream : String) (reply : Reply) (w : Situation) : Prop :=
  ∀ items, Calling.listed reply = .ok items → ∀ pod ∈ items,
    Template.phaseOf pod = some "Succeeded" → FromCatalog e stream (traffic w.1)

theorem Filling.same {event : Event engineInterface} {c : SimulatedCluster} (h : Filling e t w)
    (same : SameContents w.2 c) (carried : Carried e w (w.1 ++ [event], c))
    (none : ∀ x ∈ traffic [event], ∀ document, ¬ Submits e.ns t.name document x) :
    Filling e t (w.1 ++ [event], c) := by
  obtain ⟨submitted, object, pod⟩ := h
  refine ⟨?_, ?_, fun p hp succeeded => carried.source _ (pod p ?_ succeeded)⟩
  · rw [EngineScript.traffic_append]
    exact submitted.append none
  · rw [same.objects]
    exact object
  · rw [← same.pods]
    exact hp

theorem not_submits {name path : String} {document : Json} :
    ¬ Submits e.ns name document ⟨.get path, reply⟩ := by
  intro h
  cases congrArg Request.verb h.1

theorem podsWith_build {pods : Dict String Json} {name processName : String} :
    podsWith pods .build name processName = pods.insert (name ++ "-build")
      (SimulatedCluster.newPod (name ++ "-build") buildPodLabel name processName) := rfl

variable (jobs) in
/-- A new build fills its stream. -/
theorem post_build (hk : Lasting e K) (ht : Filed e t) :
    (provenance e jobs).within.Step (Known e K)
      (.send (.post (ResourceKind.build.collectionPath e.ns) t.template.document)) fun (reply : Reply) w =>
        Known e K w ∧ (reply.isOk = true → Filling e t w) := by
  intro w hw
  have calm : Calm e.ns (.post (ResourceKind.build.collectionPath e.ns) t.template.document) :=
    calm_post nofun
  obtain ⟨allowed, kept⟩ := known_send jobs calm hk (fun _ _ document heq => by
    cases ResourceKind.collectionPath_inj (congrArg Request.path heq)) w hw
  refine ⟨allowed, fun reply w' moved => ?_⟩
  have hw' := kept reply w' moved
  refine ⟨hw', fun created => ?_⟩
  obtain ⟨c, rfl, answered⟩ := moved_send moved
  rw [← hw.1.ns] at answered
  have named : Template.nameOf t.template.document = some t.name := t.isNamed
  obtain ⟨processName, -, objects, pods⟩ := answered.posted created named
  have initial : SimulatedCluster.initialDocument .build t.template.document =
      setMember "status" (phaseStatus "New") t.template.document := rfl
  rw [initial] at objects
  refine ⟨?_, ⟨⟨setMember "status" (phaseStatus "New") t.template.document, 0⟩, ?_, ?_, ?_⟩,
    fun pod hp succeeded => ?_⟩
  · rw [EngineScript.traffic_append]
    exact lastSubmitted_snoc ⟨rfl, named, created⟩
  · rw [objects, ByKind.get_set, if_pos rfl, Dict.get?_insert, if_pos rfl]
  · have object : t.template.document.isObject = true := rfl
    exact isObject_setMember object
  · dsimp only
    rw [targetOf_setStatus, targetOf_build t ht.stream]
  · rw [pods, podsWith_build, Dict.get?_insert, if_pos rfl] at hp
    cases hp
    exact absurd (phaseOf_newPod.symm.trans succeeded) (by decide)

section

-- `object` is a build that is looked at, as it is before, and `phase` what the look tells.
variable {c : SimulatedCluster} {object : StoredObject} {name phase podPhase : String}
  {reason : Option String} (status : object.document.isObject = true)
  (target : SimulatedCluster.targetOf object.document = some stream)
include status target

/-- A look tells that a build for a stream is complete just if its phase says so. -/
theorem completes_look {name' stream' : String} :
    Completes e.ns name' stream' ⟨.get (ResourceKind.build.instancePath e.ns name),
      .ok (.json (setMember "status" (phaseStatus phase) object.document))⟩ ↔
      name' = name ∧ phase = "Complete" ∧ stream' = stream := by
  constructor
  · intro h
    obtain ⟨path, document, shown, hr, hd, phased, pushes⟩ := h
    cases hr
    cases hd
    rw [phaseOf_setStatus status] at phased
    rw [targetOf_setStatus, target] at pushes
    exact ⟨(ResourceKind.instancePath_inj (congrArg Request.path path)).2.symm, Option.some.inj phased,
      (Option.some.inj pushes).symm⟩
  · intro h
    obtain ⟨rfl, rfl, rfl⟩ := h
    exact ⟨rfl, _, _, rfl, rfl, phaseOf_setStatus status, targetOf_setStatus.trans target⟩

end

theorem latestBuild_fromCatalog {l : List Exchange} (ht : Filed e t)
    (h : LatestBuild e.ns t.imageStream l t.template.document) : FromCatalog e t.imageStream l := by
  obtain ⟨processId, spec, hget, hname, hsource⟩ := ht.entry
  refine ⟨processId, spec, t.template.document, hget, hname, h, ?_⟩
  rw [BuildTemplate.sourceIn_document, hsource]

variable (jobs) in
/-- A look at a build that fills its stream: if it tells that the build is complete, the stream has
an image from the catalog. -/
theorem look_build (hk : Lasting e K) (ht : Filed e t) :
    (provenance e jobs).within.Step (Known e fun w => K w ∧ Filling e t w)
      (.send (.get (ResourceKind.build.instancePath e.ns t.name))) fun (reply : Reply) =>
        Known e fun w => (K w ∧ Filling e t w) ∧ CompleteBy e t.imageStream reply w := by
  intro w hw
  obtain ⟨traced, hkw, filling⟩ := hw
  refine ⟨fun _ => nofun, fun reply w' moved => ?_⟩
  obtain ⟨c, rfl, answered⟩ := moved_send moved
  have route := route_instance traced.ns .build ht.label
  let event : Event engineInterface :=
    ⟨.cluster (.send (.get (ResourceKind.build.instancePath e.ns t.name))), reply⟩
  have quiet : ∀ x ∈ traffic [event], ∀ document, ¬ Submits e.ns t.name document x := by
    intro x hx document
    cases hx with
    | head => exact not_submits
    | tail _ hx => cases hx
  obtain ⟨same, cause, rfl⟩ | ⟨object, c₀, -, there, same, hreply, rfl⟩ := answered.looked route
  · obtain ⟨traced', carried⟩ := traced.same same fun x hx _ _ => not_completes_error hx
    exact ⟨traced', ⟨hk w _ ⟨.send _, _⟩ rfl carried hkw, filling.same same carried quiet⟩, nofun⟩
  · obtain ⟨submitted, ⟨object', there', status, target⟩, pods⟩ := filling
    cases there.symm.trans there'
    rw [← same.objects] at there
    obtain ⟨phase, podPhase, reason, told, built, begun, streams⟩ :=
      SimulatedCluster.observe_build there target
    rw [told] at hreply
    subst hreply
    have sound := answered.podsSound traced.pods
    have ns := answered.ns
    rw [same.pods] at begun
    have submitted' : LastSubmitted e.ns t.name (traffic (w.1 ++ [event])) t.template.document := by
      rw [EngineScript.traffic_append]
      exact submitted.append quiet
    obtain ⟨rfl, streams⟩ | ⟨early, podEarly, streams⟩ := streams
    · -- The build is complete, so from now on it is the latest one of its stream.
      have filled : FromCatalog e t.imageStream (traffic (w.1 ++ [event])) := by
        rw [EngineScript.traffic_append]
        exact latestBuild_fromCatalog ht (latestBuild_snoc submitted
          ((completes_look status target).2 ⟨rfl, rfl, rfl⟩))
      have only : ∀ x ∈ traffic [event], ∀ name stream, Completes e.ns name stream x →
          stream = t.imageStream := fun x hx name stream completes =>
        ((completes_look status target).1 (completes_send hx completes)).2.2
      rw [same.objects] at streams
      obtain ⟨traced', carried⟩ := traced.pushed ns sound streams filled only
      refine ⟨traced', ⟨hk w _ ⟨.send _, _⟩ rfl carried hkw, submitted', ?_, fun _ _ _ => filled⟩,
        fun _ _ _ _ _ => filled⟩
      exact ⟨_, built, isObject_setMember status, targetOf_setStatus.trans target⟩
    · have none : ∀ x ∈ traffic [event], ∀ name stream, ¬ Completes e.ns name stream x :=
        fun x hx name stream completes =>
          early ((completes_look status target).1 (completes_send hx completes)).2.1
      rw [same.objects] at streams
      obtain ⟨traced', carried⟩ := traced.kept ns sound (streamsKept_of_eq streams) none
      refine ⟨traced', ⟨hk w _ ⟨.send _, _⟩ rfl carried hkw, submitted', ?_, fun pod hp succeeded => ?_⟩,
        fun document object' hd ho complete => ?_⟩
      · exact ⟨_, built, isObject_setMember status, targetOf_setStatus.trans target⟩
      · rw [begun, Dict.get?_modify] at hp
        obtain ⟨old, hold, rfl⟩ := Option.map_eq_some_iff.1 hp
        rw [if_pos rfl, phaseOf_inPhase (traced.pods _ old hold).1] at succeeded
        exact absurd (Option.some.inj succeeded) podEarly
      · cases hd
        cases ho
        rw [phaseOf_setStatus status] at complete
        exact absurd (Option.some.inj complete) early

variable (jobs) in
/-- A listing of the pods of a build that fills its stream. -/
theorem list_build (hk : Lasting e K) (ht : Filed e t) :
    (provenance e jobs).within.Step (Known e fun w => K w ∧ Filling e t w)
      (.send (.get (listPath (podsPath e.ns) (selectorOf buildPodLabel t.name)))) fun (reply : Reply) =>
        Known e fun w => (K w ∧ Filling e t w) ∧ SucceededBy e t.imageStream reply w := by
  intro w hw
  obtain ⟨traced, hkw, filling⟩ := hw
  have label : '=' ∉ buildPodLabel.toList := by decide +kernel
  have calm : Calm e.ns (.get (listPath (podsPath e.ns) (selectorOf buildPodLabel t.name))) :=
    calm_listPods label
  refine ⟨fun _ => nofun, fun reply w' moved => ?_⟩
  obtain ⟨c, rfl, answered⟩ := moved_send moved
  obtain ⟨same, pods⟩ := answered.listedPods (route_buildPods traced.ns t.name)
  have none : ∀ x ∈ traffic [(⟨.cluster (.send (.get (listPath (podsPath e.ns)
      (selectorOf buildPodLabel t.name)))), reply⟩ : Event engineInterface)],
      ∀ name stream, ¬ Completes e.ns name stream x :=
    fun x hx name stream completes => calm.look name (completes_send hx completes).1
  obtain ⟨traced', carried⟩ := traced.same same none
  refine ⟨traced', ⟨hk w _ ⟨.send _, _⟩ rfl carried hkw, filling.same same carried ?_⟩, ?_⟩
  · intro x hx document
    cases hx with
    | head => exact not_submits
    | tail _ hx => cases hx
  · intro items hl pod hp succeeded
    obtain ⟨hs, key, there⟩ := pods items hl pod hp
    have marked : labelOf buildPodLabel pod = t.name := of_decide_eq_true hs
    have own := (traced.pods key pod there).2 .build buildPodLabel "-build" rfl
      (by rw [marked]; exact ht.named)
    rw [marked] at own
    rw [own] at there
    exact carried.source _ (filling.pod pod there succeeded)

/-! ### Replacing a build -/

/-- What is known while an old build of the same name goes. -/
def Going (e : Engine) (t : BuildTemplate) (K : Situation → Prop) : Situation → Prop :=
  Known e fun w => K w ∧ Absent (ResourceKind.build.instancePath e.ns t.name) w.2

theorem going_send (calm : Calm e.ns r) (hk : Lasting e K)
    (harmless : ∀ document, r ≠ .post (ResourceKind.batchJob.collectionPath e.ns) document)
    (objects : ∀ c reply c', c.ns = e.ns → Answered c r reply c' → c'.objects = c.objects) :
    (provenance e jobs).within.Preserves (Going e t K) (.send r) := by
  intro w hw
  obtain ⟨traced, hkw, absent⟩ := hw
  obtain ⟨allowed, kept⟩ := known_send jobs calm hk
    (fun _ _ document heq => absurd heq (harmless document)) w ⟨traced, hkw⟩
  refine ⟨allowed, fun reply w' moved => ?_⟩
  obtain ⟨traced', hkw'⟩ := kept reply w' moved
  obtain ⟨c, rfl, answered⟩ := moved_send moved
  exact ⟨traced', hkw', absent.of_objects answered.ns (objects _ _ _ traced.ns answered)⟩

variable (jobs) in
theorem going_pause (hk : Lasting e K) (span : Millis) :
    (provenance e jobs).within.Preserves (Going e t K) (.pause span) := by
  intro w hw
  obtain ⟨traced, hkw, absent⟩ := hw
  obtain ⟨allowed, kept⟩ := known_pause jobs hk span w ⟨traced, hkw⟩
  refine ⟨allowed, fun tripped w' moved => ?_⟩
  obtain ⟨traced', hkw'⟩ := kept tripped w' moved
  have same : SameContents w.2 w'.2 := moved.2
  exact ⟨traced', hkw', absent.of_objects same.ns same.objects⟩

variable (jobs) in
/-- The deletion of a build that stands in the way. -/
theorem delete_build (hk : Lasting e K) (ht : Filed e t) :
    (provenance e jobs).within.Step (Known e K)
      (.send (.delete (ResourceKind.build.instancePath e.ns t.name))) fun (reply : Reply) w =>
        Known e K w ∧ (Calling.isGone reply = true → Going e t K w) := by
  intro w hw
  have calm : Calm e.ns (.delete (ResourceKind.build.instancePath e.ns t.name)) :=
    calm_delete nofun ht.label
  obtain ⟨allowed, kept⟩ := known_send jobs calm hk (fun _ _ _ => nofun) w hw
  refine ⟨allowed, fun reply w' moved => ?_⟩
  have hw' := kept reply w' moved
  obtain ⟨c, rfl, answered⟩ := moved_send moved
  have route := route_instance hw.1.ns .build ht.label
  exact ⟨hw', fun gone => ⟨hw'.1, hw'.2, answered.deleted route gone⟩⟩

variable (jobs) in
/-- A look for a build that is gone finds nothing. -/
theorem look_gone (hk : Lasting e K) (ht : Filed e t) :
    (provenance e jobs).within.Step (Going e t K)
      (.send (.get (ResourceKind.build.instancePath e.ns t.name))) fun (_ : Reply) => Going e t K := by
  intro w hw
  obtain ⟨traced, hkw, absent⟩ := hw
  refine ⟨fun _ => nofun, fun reply w' moved => ?_⟩
  obtain ⟨c, rfl, answered⟩ := moved_send moved
  have route := route_instance traced.ns .build ht.label
  obtain ⟨same, cause, rfl⟩ := answered.missed route absent
  obtain ⟨traced', carried⟩ := traced.same same fun x hx _ _ => not_completes_error hx
  exact ⟨traced', hk w _ ⟨.send _, _⟩ rfl carried hkw, absent.of_objects same.ns same.objects⟩

theorem replacing_build (hk : Lasting e K) (ho : e.Owned jobId task t.template) (ht : Filed e t) :
    Resource.Replacing (provenance e jobs).within e.ns t.template (Known e K) (Known e K)
      (fun _ => Going e t K) (Going e t K) (Going e t K) (Going e t K)
      (Known e fun w => K w ∧ Filling e t w) (Known e K) where
  remove := by
    refine ⟨fun w hw => ?_, fun selector hs => ?_, fun _ _ _ name _ _ _ => ?_⟩
    · obtain ⟨allowed, step⟩ := delete_build jobs hk ht w hw
      refine ⟨allowed, fun reply w' moved => ?_⟩
      obtain ⟨hw', gone⟩ := step reply w' moved
      split
      · exact gone ‹_›
      · exact hw'
    · refine going_send (calm_listOwn (ho.selector selector hs)) hk (fun _ => nofun) ?_
      intro c reply c' ns answered
      cases hs
      exact (answered.listedPods (route_buildPods ns t.name)).1.objects
    · refine going_send (calm_deletePod name) hk (fun _ => nofun) fun c reply c' ns answered => ?_
      exact answered.deletedPod fun kind name' => ns ▸ ofPath_pod_ne_object name kind name'
  broken := fun _ h => h
  removed := fun _ w h => ⟨h, h.1, h.2.1⟩
  pause := fun span w hw => by
    obtain ⟨allowed, kept⟩ := going_pause jobs hk span w hw
    refine ⟨allowed, fun tripped w' moved => ?_⟩
    have hw' := kept tripped w' moved
    cases tripped with
    | true => exact ⟨hw'.1, hw'.2.1⟩
    | false => exact hw'
  get := fun w hw => by
    obtain ⟨allowed, kept⟩ := look_gone jobs hk ht w hw
    refine ⟨allowed, fun reply w' moved => ?_⟩
    have hw' := kept reply w' moved
    cases reply with
    | ok document => exact hw'
    | error cause =>
        dsimp only
        split
        · exact hw'
        · exact ⟨hw'.1, hw'.2.1⟩
  expired := fun w h => ⟨h.1, h.2.1⟩
  post := fun w hw => by
    obtain ⟨allowed, step⟩ := post_build jobs hk ht w ⟨hw.1, hw.2.1⟩
    refine ⟨allowed, fun reply w' moved => ?_⟩
    obtain ⟨hw', filling⟩ := step reply w' moved
    split
    · exact ⟨hw'.1, hw'.2, filling ‹_›⟩
    · exact hw'

/-! ### Building -/

theorem ready_build {build : Json} {pod : Option Json} (h : BuildTemplate.readiness build pod = .ready) :
    Template.phaseOf build = some "Complete" ∨
      ∃ p, pod = some p ∧ Template.phaseOf p = some "Succeeded" := by
  have own (h : BuildTemplate.ownReadiness build = .ready) :
      Template.phaseOf build = some "Complete" := by
    unfold BuildTemplate.ownReadiness at h
    dsimp only at h
    split at h <;> first | assumption | cases h
  unfold BuildTemplate.readiness at h
  split at h
  · exact .inl (own h)
  · split at h
    · exact .inr ⟨_, rfl, ‹_›⟩
    · cases h
    · cases h
    · exact .inl (own h)

theorem mem_of_firstPod {pod : Json} (h : firstPod (some reply) = .ok (some pod)) :
    ∃ items, Calling.listed reply = .ok items ∧ pod ∈ items := by
  cases hl : Calling.listed reply with
  | error cause =>
      simp only [firstPod, hl] at h
      cases h
  | ok items =>
      simp only [firstPod, hl] at h
      exact ⟨items, rfl, List.mem_of_head? (Except.ok.inj h)⟩

variable (jobs) in
theorem filling_pause (hk : Lasting e K) (span : Millis) :
    (provenance e jobs).within.Preserves (Known e fun w => K w ∧ Filling e t w) (.pause span) := by
  intro w hw
  obtain ⟨traced, hkw, filling⟩ := hw
  refine ⟨fun _ => nofun, fun tripped w' moved => ?_⟩
  obtain ⟨log, c⟩ := w'
  obtain ⟨rfl, same⟩ := moved
  have quiet : traffic [EngineScript.ofClusterEvent ⟨.pause span, tripped⟩] = [] := rfl
  obtain ⟨traced', carried⟩ := traced.same same (by rw [quiet]; nofun)
  exact ⟨traced', hk w _ ⟨.pause span, tripped⟩ rfl carried hkw,
    filling.same same carried (by rw [quiet]; nofun)⟩

theorem build_submitting (hk : Lasting e K) (ho : e.Owned jobId task t.template) (ht : Filed e t) :
    Resource.Submitting (provenance e jobs).within e.ns t.template (Known e K) (Known e K)
      (Known e fun w => K w ∧ Filling e t w) (Known e K) := by
  refine ⟨fun w hw => ?_, fun _ => ⟨_, _, _, _, _, replacing_build hk ho ht⟩⟩
  obtain ⟨allowed, step⟩ := post_build jobs hk ht w hw
  refine ⟨allowed, fun reply w' moved => ?_⟩
  obtain ⟨hw', filling⟩ := step reply w' moved
  cases reply with
  | ok document => exact ⟨hw'.1, hw'.2, filling rfl⟩
  | error cause =>
      have own : t.template.shared = false := rfl
      simpa only [own, Bool.false_eq_true, if_false, ite_self] using hw'

theorem build_watching (hk : Lasting e K) (ht : Filed e t) :
    Watching (provenance e jobs).within e.ns t.template
      (fun _ => Known e fun w => K w ∧ Filling e t w) (fun _ => Known e fun w => K w ∧ Filling e t w)
      (fun _ reply pods => Known e fun w => (K w ∧ Filling e t w) ∧ CompleteBy e t.imageStream reply w ∧
        ∀ answer, pods = some answer → SucceededBy e t.imageStream answer w)
      (Known e K) := by
  refine ⟨fun _ span w hw => ?_, fun _ => ⟨fun w hw => ?_, fun reply selector hs w hw => ?_⟩,
    fun _ _ _ w h _ => ?_⟩
  · obtain ⟨allowed, kept⟩ := filling_pause jobs hk span w hw
    refine ⟨allowed, fun tripped w' moved => ?_⟩
    have hw' := kept tripped w' moved
    cases tripped with
    | true => exact ⟨hw'.1, hw'.2.1⟩
    | false => exact hw'
  · obtain ⟨allowed, step⟩ := look_build jobs hk ht w hw
    refine ⟨allowed, fun reply w' moved => ?_⟩
    obtain ⟨traced, both, shown⟩ := step reply w' moved
    exact ⟨traced, both, shown, nofun⟩
  · cases hs
    obtain ⟨traced, ⟨hkw, filling⟩, shown, -⟩ := hw
    obtain ⟨allowed, step⟩ := list_build jobs (hk.and (lasting_completeBy reply)) ht w
      ⟨traced, ⟨hkw, shown⟩, filling⟩
    refine ⟨allowed, fun pods w' moved => ?_⟩
    obtain ⟨traced, ⟨⟨hkw, shown⟩, filling⟩, listed⟩ := step pods w' moved
    refine ⟨traced, ⟨hkw, filling⟩, shown, fun answer heq => ?_⟩
    cases heq
    exact listed
  · obtain ⟨_, _, ⟨traced, both, -⟩, -⟩ := h
    exact ⟨traced, both⟩

/-- A build that was told to be ready has filled its stream. -/
theorem create_build_known {r : Resource} {watch : Watch} (hk : Lasting e K)
    (ho : e.Owned jobId task t.template) (ht : Filed e t) (hr : r.template = t.template)
    (hw : Known e K w) :
    MeetsWith (provenance e jobs).within (Resource.create e.ns true watch) r w
      (fun _ r w => r.template = t.template ∧
        Known e (fun w => K w ∧ FromCatalog e t.imageStream (traffic w.1)) w)
      fun _ r w => r.template = t.template ∧ Known e K w := by
  refine (Resource.meetsWith_create (build_submitting hk ho ht) (build_watching hk ht) (fun _ h => h)
    hr hw).mono (fun _ r w found => ?_) fun _ r w ⟨hr, lost⟩ => ⟨hr, ?_⟩
  · obtain ⟨hr, _, object, _, reply, pods, ⟨traced, ⟨hkw, _⟩, shown, listed⟩, _, judged⟩ := found
    obtain ⟨document, found, hreply, hd, hp, ready⟩ := Template.judge_ok judged
    refine ⟨hr, traced, hkw, ?_⟩
    obtain done | ⟨pod, rfl, done⟩ := ready_build ready
    · exact shown document object hreply hd done
    · cases pods with
      | none => cases hp
      | some answer =>
          obtain ⟨items, hl, hmem⟩ := mem_of_firstPod hp
          exact listed answer rfl items hl pod hmem done
  · obtain hw | hw | ⟨_, hw, -⟩ | ⟨_, _, _, hw, -⟩ := lost
    · exact hw
    · exact hw
    · exact ⟨hw.1, hw.2.1⟩
    · exact ⟨hw.1, hw.2.1.1⟩

/-! ### Tasks -/

theorem filed_build {spec : ImageSpec} (h : e.catalog.get? task.processId = some spec) :
    Filed e (.forTask jobId task.id task.processId (.forProcess task.processId) spec.source) where
  label := isLabel_objectName .build jobId task.id
  named := objectName_ne_empty .build jobId task.id
  stream := (isLabel_sanitizeName task.processId).notMem (by decide) (by decide)
  entry := ⟨task.processId, spec, h, rfl, rfl⟩

theorem buildImage_known (hw : Known e (fun w => Under task w.1) w) :
    MeetsOr (provenance e jobs) (e.buildImage jobId task) w
      (fun built => Known e (Supplied e task built.image)) fun _ => Known e fun w => Under task w.1 := by
  let stream := sanitizeName task.processId
  have lasting : Lasting e fun w => Under task w.1 := lasting_under
  refine Engine.meetsOr_buildImage (fun built => Known e (Supplied e task built.image))
    (Known e fun w => Under task w.1) (Known e fun w => Under task w.1) (fun _ => hw) (fun spec hspec => ?_)
    (fun _ _ _ h => known_inspect Engine.owned_build lasting h)
    fun _ _ => clearing_known jobs Engine.owned_build lasting
  have filed : Filed e (.forTask jobId task.id task.processId (.forProcess task.processId) spec.source) :=
    filed_build hspec
  refine ImageBuild.meetsWith_run (Known e fun w => Under task w.1)
    (fun object => Known e fun w => Under task w.1 ∧ Shown e stream object w)
    (fun object => Known e fun w => Under task w.1 ∧ Shown e stream object w)
    (fun repository => Known e (Supplied e task (ImageStreamTemplate.imageOf repository)))
    (fun image _ => Known e (Supplied e task image)) (Known e fun w => Under task w.1)
    (existingImage_known rfl ⟨spec, hspec⟩ hw) (fun w hw => createStream_known rfl hw)
    (fun _ _ w hs _ hw => awaitPeers_known hs ⟨spec, hspec⟩ hw) (fun _ w hw _ => ⟨hw.1, hw.2.1⟩)
    (fun object repository w hw hr => ?_) (fun repository request h => ?_) (fun repository => ?_) rfl
  · obtain ⟨traced, under, shown⟩ := hw
    refine (create_build_known (lasting_under.and lasting_served) Engine.owned_build filed rfl
      ⟨traced, under, shown.1 repository hr⟩).mono (fun _ r w ⟨ht, traced, ⟨under, served⟩, source⟩ => ?_)
      fun _ r w ⟨ht, traced, under, _⟩ => ⟨ht, traced, under⟩
    exact ⟨ht, traced, under, ⟨spec, hspec⟩, repository, rfl, served, source⟩
  · exact known_inspect Engine.owned_build lasting_supplied h
  · have supplied : Lasting e (Supplied e task (ImageStreamTemplate.imageOf repository)) := lasting_supplied
    obtain ⟨broken, gone, removing, hbroken, hgone⟩ := clearing_known jobs Engine.owned_build supplied
    exact ⟨broken, gone, removing, fun w h => ⟨(hbroken w h).1, (hbroken w h).2.under⟩,
      fun w ⟨_, h, _⟩ => ⟨(hgone _ w h).1, (hgone _ w h).2.under⟩, hgone⟩

theorem deploy_known {image : String} {config : Resource} {output : HeldVolume Resource}
    {inputs : List (HeldVolume Resource)} {tasks : List Task} (hj : (jobId, tasks) ∈ jobs)
    (ht : task ∈ tasks) (hw : Known e (Supplied e task image) w) :
    MeetsOr (provenance e jobs) (e.deploy jobId task image config output inputs) w
      (fun _ => Known e fun w => Under task w.1) fun _ => Known e fun w => Under task w.1 := by
  have lasting : Lasting e (Supplied e task image) := lasting_supplied
  have clear {image : String} {mounts : List Mount} :
      Resource.Clearing (provenance e jobs).within e.ns (e.batchOf jobId task image mounts)
        (Known e (Supplied e task image)) (Known e fun w => Under task w.1) := by
    have owned : e.Owned jobId task (e.batchOf jobId task image mounts) := Engine.owned_batch
    obtain ⟨broken, gone, removing, hbroken, hgone⟩ := clearing_known jobs owned lasting_supplied
    exact ⟨broken, gone, removing, fun w h => ⟨(hbroken w h).1, (hbroken w h).2.under⟩,
      fun pods w h => ⟨(hgone pods w h).1, (hgone pods w h).2.under⟩⟩
  refine Engine.meetsOr_deploy (Known e (Supplied e task image)) (Known e (Supplied e task image))
    (Known e fun w => Under task w.1) (Known e fun w => Under task w.1) rfl ?_
    (fun _ h => known_inspect Engine.owned_batch lasting h)
    (fun _ h => known_inspect Engine.owned_batch lasting h)
    (fun path => known_send jobs (calm_metrics path) lasting fun _ _ _ => nofun) clear clear
  refine create_known Engine.owned_batch nofun lasting (fun w hw _ => ?_) rfl hw
  exact ⟨_, hj, task, ht, image, _, rfl, hw.2⟩

theorem execute_known {output : HeldVolume Resource} {config : Resource}
    {inputs : List (HeldVolume Resource)} {mounts : List String} {tasks : List Task}
    (hj : (jobId, tasks) ∈ jobs) (ht : task ∈ tasks)
    (ho : output.resource.template = e.volumeOf jobId task)
    (hc : config.template = Engine.configOf jobId task mounts)
    (hw : Known e (fun w => Under task w.1) w) :
    (e.execute jobId task output config inputs).Meets (provenance e jobs) w fun p w =>
      p.2.resource.template = e.volumeOf jobId task ∧ Known e (fun w => Under task w.1) w := by
  have volume : MeetsWith (provenance e jobs).within (Resource.create e.ns true e.watch) output.resource w
      (fun _ r w => r.template = e.volumeOf jobId task ∧ Known e (fun w => Under task w.1) w)
      fun _ r w => r.template = e.volumeOf jobId task ∧ Known e (fun w => Under task w.1) w :=
    create_known Engine.owned_volume nofun lasting_under nofun ho hw
  refine Script.Meets.mono (Engine.meets_execute (Known e fun w => Under task w.1)
    (Known e fun w => Under task w.1) (fun built => Known e (Supplied e task built.image))
    (fun _ => Known e fun w => Under task w.1) (Known e fun w => Under task w.1)
    (volume.mono (fun _ _ _ h => ⟨h.1.trans ho.symm, h.2⟩) fun _ _ _ h => ⟨h.1.trans ho.symm, h.2⟩)
    (fun w hw => (create_known Engine.owned_config nofun lasting_under nofun hc hw).mono
      (fun _ _ _ h => ⟨h.1.trans hc.symm, h.2⟩) fun _ _ _ h => h.2)
    (fun w hw => buildImage_known hw)
    fun _ _ _ w _ _ _ _ hw => deploy_known hj ht hw) fun p w ⟨_, hv, h⟩ => ⟨hv.trans ho, ?_⟩
  obtain ⟨result, output'⟩ := p
  cases result with
  | ok outcome => exact h.choose_spec.2.2
  | error cause => exact h

/-! ### Jobs -/

theorem run_known {tasks : List Task} (hj : (jobId, tasks) ∈ jobs) (hw : Known e (fun _ => True) w) :
    (e.run jobId tasks).Meets (provenance e jobs) w fun _ => Known e fun _ => True := by
  have report (event : TaskEvent) (answer : Except EngineError Unit) {w w' : Situation}
      (hw : Known e (fun _ => True) w) (moved : (provenance e jobs).moves w ⟨.report event, answer⟩ w') :
      Known e (fun _ => True) w' ∧ w'.1 = w.1 ++ [⟨.report event, answer⟩] := by
    obtain ⟨log, c⟩ := w'
    obtain ⟨rfl, same⟩ := moved
    have quiet : traffic [(⟨.report event, answer⟩ : Event engineInterface)] = [] := rfl
    exact ⟨⟨(hw.1.same same (by rw [quiet]; nofun)).1, trivial⟩, rfl⟩
  refine Engine.meets_run_of_preserves
    (fun task w (hw : Known e (fun w => Under task w.1) w) => ⟨hw.1, trivial⟩)
    (fun _ _ => clearing_known jobs Engine.owned_volume lasting_true)
    (fun task ht output config inputs mounts w ho hc hw => execute_known hj ht ho hc hw)
    (fun task _ mounts => ?_) (known_pause jobs lasting_true 0) (fun task _ w hw => ⟨fun _ => nofun, ?_⟩)
    (fun event _ w hw => ⟨fun _ => nofun, fun answer w' moved => (report event answer hw moved).1⟩) hw
  · have owned : e.Owned jobId task (Engine.configOf jobId task mounts) := Engine.owned_config
    have under : Lasting e fun w => Under task w.1 := lasting_under
    obtain ⟨broken, gone, removing, hbroken, hgone⟩ := clearing_known jobs owned under
    exact ⟨broken, gone, removing, fun w h => ⟨(hbroken w h).1, trivial⟩,
      fun pods w h => ⟨(hgone pods w h).1, trivial⟩⟩
  · intro answer w' moved
    obtain ⟨hw', log⟩ := report (.started task) answer hw moved
    refine ⟨hw'.1, ?_⟩
    dsimp only
    rw [log]
    exact Engine.underway_started answer

theorem runAll_known (hw : Known e (fun _ => True) w) :
    (e.runAll jobs).Meets (provenance e jobs) w fun _ => Known e fun _ => True := by
  let inv (_ : List (String × List Task)) (_ : List (Except EngineError (List TaskOutcome))) :
      Situation → Prop := Known e fun _ => True
  have step : ∀ past results job w, job ∈ jobs → inv past results w →
      (e.run job.1 job.2).Meets (provenance e jobs) w fun result =>
        inv (past ++ [job]) (results ++ [result]) := fun _ _ _ _ hj hw => run_known hj hw
  exact Engine.meets_runAll step hw

theorem path_provenance {before log : List (Event engineInterface)} {c c' : SimulatedCluster}
    (h : Answers c log c') : (provenance e jobs).Path (before, c) log (before ++ log, c') := by
  induction h generalizing before with
  | nil c =>
      rw [List.append_nil]
      exact .nil _
  | @cons c c₁ c' event log first _ ih =>
      have rest : (provenance e jobs).Path (before ++ [event], c₁) log
          (before ++ [event] ++ log, c') := ih
      rw [List.append_assoc] at rest
      exact .cons (y := (before ++ [event], c₁)) ⟨rfl, first⟩ rest

/-- What is known when a batch job is created on a cluster that had no image streams. -/
theorem batch_supplied {e : Engine} {jobs : List (String × List Task)} {c c' : SimulatedCluster}
    (reached : Reached e.ns c) (bare : ∀ stream, (c.objects.get .imageStream).get? stream = none)
    {before after : List (Event engineInterface)} {document : Json} {reply : Reply}
    {rest : EngineScript (List (Except EngineError (List TaskOutcome)))}
    (h : (e.runAll jobs).Follows
      (before ++ ⟨.cluster (.send (.post (ResourceKind.batchJob.collectionPath e.ns) document)), reply⟩ ::
        after) rest)
    (answers : Answers c before c') :
    ∃ job ∈ jobs, ∃ task ∈ job.2, ∃ image mounts,
      document = (e.batchOf job.1 task image mounts).document ∧ Supplied e task image (before, c') := by
  have start : Known e (fun _ => True) ([], c) := by
    refine ⟨⟨reached.sound.1, reached.sound.2, fun stream object hs => ?_⟩, trivial⟩
    cases (bare stream).symm.trans hs
  obtain ⟨u, first, last⟩ := h.of_append
  have path : (provenance e jobs).Path ([], c) before (before, c') := path_provenance answers
  exact ((runAll_known start).rest first path).allowed last document rfl

end ImageryJobs.Simulation
