import ImageryJobs.Proofs.Engine.Footprint
import ImageryJobs.Proofs.Simulation.Courses

/-!
Where images come from. While jobs run one after another on a simulated cluster that has no image
streams at first, an image stream has an image only after a build for it was complete, and the last
such build was created from the sources that the catalog has for some process whose name is that of
the stream. So a batch job runs code of its own process unless another process has the same name.
-/

namespace ImageryJobs

/-- The sources that a build's document names. -/
def BuildTemplate.sourceIn (document : Json) : Option BuildSource := do
  let gitUri ← Template.textAt document ["spec", "source", "git", "uri"]
  let gitRef ← Template.textAt document ["spec", "source", "git", "ref"]
  return ⟨gitUri, gitRef, Template.textAt document ["spec", "source", "contextDir"]⟩

theorem BuildTemplate.sourceIn_document (t : BuildTemplate) :
    sourceIn t.template.document = some t.source := by
  obtain ⟨metadata, stream, ⟨uri, ref, dir⟩⟩ := t
  cases dir <;>
    simp [sourceIn, Template.textAt, Json.path?, template, manifest, Manifest.Build.toJson,
      Manifest.BuildSpec.toJson, Manifest.BuildInput.toJson, Manifest.GitSource.toJson, Json.memberIf,
      Json.get?_mk, Dict.ofList, Json.string?]

namespace Simulation

open EngineScript (traffic)

/-! ### Builds in the log -/

section

variable {ns stream : String} {l : List Exchange} {x : Exchange} {document : Json}

/-- A look at a build of a name showed that it is complete and pushes to a stream. -/
def Completes (ns name stream : String) : Exchange → Prop :=
  Exchange.Shows (ResourceKind.build.instancePath ns name) fun build =>
    Template.phaseOf build = some "Complete" ∧ SimulatedCluster.targetOf build = some stream

/-- A build of a name was created from a document. -/
def Submits (ns name : String) (document : Json) (x : Exchange) : Prop :=
  x.request = .post (ResourceKind.build.collectionPath ns) document ∧
    Template.nameOf document = some name ∧ x.reply.isOk = true

/-- The last build of a name was created from a document. -/
def LastSubmitted (ns name : String) (l : List Exchange) (document : Json) : Prop :=
  ∃ before x after, l = before ++ x :: after ∧ Submits ns name document x ∧
    ∀ y ∈ after, ∀ document', ¬ Submits ns name document' y

/-- The build for a stream that was complete most recently was created from a document. -/
def LatestBuild (ns stream : String) (l : List Exchange) (document : Json) : Prop :=
  ∃ name before x after, l = before ++ x :: after ∧ Completes ns name stream x ∧
    LastSubmitted ns name before document ∧ ∀ y ∈ after, ∀ name', ¬ Completes ns name' stream y

theorem LastSubmitted.append {name : String} {l' : List Exchange} (h : LastSubmitted ns name l document)
    (hl : ∀ x ∈ l', ∀ document', ¬ Submits ns name document' x) :
    LastSubmitted ns name (l ++ l') document := by
  obtain ⟨before, y, after, rfl, submits, none⟩ := h
  refine ⟨before, y, after ++ l', by simp, submits, fun z hz => ?_⟩
  obtain hz | hz := List.mem_append.1 hz
  · exact none z hz
  · exact hl z hz

theorem lastSubmitted_snoc {name : String} (h : Submits ns name document x) :
    LastSubmitted ns name (l ++ [x]) document := ⟨l, x, [], rfl, h, nofun⟩

theorem LatestBuild.append {l' : List Exchange} (h : LatestBuild ns stream l document)
    (hl : ∀ x ∈ l', ∀ name, ¬ Completes ns name stream x) :
    LatestBuild ns stream (l ++ l') document := by
  obtain ⟨name, before, y, after, rfl, completes, submitted, none⟩ := h
  refine ⟨name, before, y, after ++ l', by simp, completes, submitted, fun z hz => ?_⟩
  obtain hz | hz := List.mem_append.1 hz
  · exact none z hz
  · exact hl z hz

theorem latestBuild_snoc {name : String} (h : LastSubmitted ns name l document)
    (hx : Completes ns name stream x) : LatestBuild ns stream (l ++ [x]) document :=
  ⟨name, l, x, [], rfl, hx, h, nofun⟩

end

/-! ### What is known of image streams -/

/-- A stream has been given a repository. -/
def Served (stream repository : String) (c : SimulatedCluster) : Prop :=
  ∃ object, (c.objects.get .imageStream).get? stream = some object ∧
    ImageStreamTemplate.repository? object.document = some repository

/-- The build for a stream that was complete most recently was created from the sources that the
catalog has for a process with the name of the stream. -/
def FromCatalog (e : Engine) (stream : String) (l : List Exchange) : Prop :=
  ∃ processId spec document, e.catalog.get? processId = some spec ∧
    sanitizeName processId = stream ∧ LatestBuild e.ns stream l document ∧
    BuildTemplate.sourceIn document = some spec.source

/-- Every stream with an image has it from a build from the catalog. -/
structure Traced (e : Engine) (w : Situation) : Prop where
  ns : w.2.ns = e.ns
  pods : PodsSound w.2
  streams : ∀ stream object, (w.2.objects.get .imageStream).get? stream = some object →
    HasStatus object.document ∧
      (ImageStreamTemplate.isResolved object.document = true → FromCatalog e stream (traffic w.1))

/-- Streams keep their repositories, and have their images from the catalog as before. -/
structure Carried (e : Engine) (w w' : Situation) : Prop where
  served : ∀ stream repository, Served stream repository w.2 → Served stream repository w'.2
  source : ∀ stream, FromCatalog e stream (traffic w.1) → FromCatalog e stream (traffic w'.1)

/-- What is kept by every call under which streams keep what they have. -/
def Lasting (e : Engine) (K : Situation → Prop) : Prop :=
  ∀ w w' : Situation, ∀ event, w'.1 = w.1 ++ [EngineScript.ofClusterEvent event] → Carried e w w' → K w → K w'

/-- Streams have their images from the catalog, and more is known. -/
def Known (e : Engine) (K : Situation → Prop) (w : Situation) : Prop := Traced e w ∧ K w

variable {e : Engine} {w w' : Situation} {K K' : Situation → Prop} {stream repository : String}

theorem lasting_true : Lasting e fun _ => True := fun _ _ _ _ _ _ => trivial

theorem Lasting.and (h : Lasting e K) (h' : Lasting e K') : Lasting e fun w => K w ∧ K' w :=
  fun w w' event log carried hk => ⟨h w w' event log carried hk.1, h' w w' event log carried hk.2⟩

theorem lasting_under {task : Task} : Lasting e fun w => Engine.Under task w.1 := by
  intro w w' event log _ hw
  rw [log]
  exact Engine.under_cluster w.1 event hw

theorem lasting_served : Lasting e fun w => Served stream repository w.2 :=
  fun _ _ _ _ carried hw => carried.served _ _ hw

theorem lasting_fromCatalog : Lasting e fun w => FromCatalog e stream (traffic w.1) :=
  fun _ _ _ _ carried hw => carried.source _ hw

theorem FromCatalog.append {l l' : List Exchange} (h : FromCatalog e stream l)
    (hl : ∀ x ∈ l', ∀ name, ¬ Completes e.ns name stream x) : FromCatalog e stream (l ++ l') := by
  obtain ⟨processId, spec, document, hget, hname, latest, source⟩ := h
  exact ⟨processId, spec, document, hget, hname, latest.append hl, source⟩

/-- A stream's document is as it was, or was looked at. -/
def StreamKept (object object' : StoredObject) : Prop :=
  object'.document = object.document ∨
    ∃ given, object'.document = SimulatedCluster.served given object.document

/-- Streams are kept; a new one has no image. -/
structure StreamsKept (c c' : SimulatedCluster) : Prop where
  kept : ∀ stream object, (c.objects.get .imageStream).get? stream = some object →
    ∃ object', (c'.objects.get .imageStream).get? stream = some object' ∧ StreamKept object object'
  old : ∀ stream object', (c'.objects.get .imageStream).get? stream = some object' →
    (∃ object, (c.objects.get .imageStream).get? stream = some object ∧ StreamKept object object') ∨
      HasStatus object'.document ∧ ImageStreamTemplate.isResolved object'.document = false

theorem streamsKept_of_eq {c c' : SimulatedCluster}
    (h : c'.objects.get .imageStream = c.objects.get .imageStream) : StreamsKept c c' := by
  constructor
  · intro stream object hs
    exact ⟨object, by rw [h]; exact hs, .inl rfl⟩
  · intro stream object hs
    rw [h] at hs
    exact .inl ⟨object, hs, .inl rfl⟩

theorem streamsKept_look {c : SimulatedCluster} {object : StoredObject}
    (there : (c.objects.get .imageStream).get? stream = some object) :
    StreamsKept c (c.observe .imageStream stream).2 := by
  rw [SimulatedCluster.observe_stream there]
  constructor
  · intro stream' old hold
    rw [SimulatedCluster.get?_putObject]
    split
    · rename_i heq
      rw [heq.2, there] at hold
      cases hold
      exact ⟨_, rfl, .inr ⟨_, rfl⟩⟩
    · exact ⟨old, hold, .inl rfl⟩
  · intro stream' new hnew
    rw [SimulatedCluster.get?_putObject] at hnew
    split at hnew
    · rename_i heq
      cases hnew
      exact .inl ⟨object, by rw [heq.2]; exact there, .inr ⟨_, rfl⟩⟩
    · exact .inl ⟨new, hnew, .inl rfl⟩

theorem streamsKept_insert {c c' : SimulatedCluster} {object : StoredObject}
    (absent : (c.objects.get .imageStream).get? stream = none)
    (inserted : c'.objects.get .imageStream = (c.objects.get .imageStream).insert stream object)
    (status : HasStatus object.document)
    (unresolved : ImageStreamTemplate.isResolved object.document = false) : StreamsKept c c' := by
  constructor
  · intro stream' old hold
    rw [inserted, Dict.get?_insert]
    split
    · rename_i heq
      rw [heq, absent] at hold
      cases hold
    · exact ⟨old, hold, .inl rfl⟩
  · intro stream' new hnew
    rw [inserted, Dict.get?_insert] at hnew
    split at hnew
    · cases hnew
      exact .inr ⟨status, unresolved⟩
    · exact .inl ⟨new, hnew, .inl rfl⟩

/-- Where streams are kept and no build is complete, everything that is known stays so. -/
theorem Traced.kept {event : Event engineInterface} {c : SimulatedCluster} (h : Traced e w)
    (ns : c.ns = w.2.ns) (pods : PodsSound c) (kept : StreamsKept w.2 c)
    (none : ∀ x ∈ traffic [event], ∀ name stream, ¬ Completes e.ns name stream x) :
    Traced e (w.1 ++ [event], c) ∧ Carried e w (w.1 ++ [event], c) := by
  have source (stream : String) (hs : FromCatalog e stream (traffic w.1)) :
      FromCatalog e stream (traffic (w.1 ++ [event])) := by
    rw [EngineScript.traffic_append]
    exact hs.append fun x hx name => none x hx name stream
  refine ⟨⟨ns.trans h.ns, pods, fun stream object' hs => ?_⟩, ⟨fun stream repository hs => ?_, source⟩⟩
  · obtain ⟨object, hold, same | ⟨given, same⟩⟩ | ⟨status, unresolved⟩ := kept.old stream object' hs
    · obtain ⟨status, resolved⟩ := h.streams stream object hold
      rw [same]
      exact ⟨status, fun hr => source stream (resolved hr)⟩
    · obtain ⟨status, resolved⟩ := h.streams stream object hold
      obtain ⟨status', resolved', -⟩ := SimulatedCluster.served_document status given
      rw [same, resolved']
      exact ⟨status', fun hr => source stream (resolved hr)⟩
    · refine ⟨status, fun resolved => ?_⟩
      cases unresolved.symm.trans resolved
  · obtain ⟨object, hold, hr⟩ := hs
    obtain ⟨object', hnew, same | ⟨given, same⟩⟩ := kept.kept stream object hold
    · exact ⟨object', hnew, by rw [same]; exact hr⟩
    · refine ⟨object', hnew, ?_⟩
      rw [same]
      exact (SimulatedCluster.served_document (h.streams stream object hold).1 given).2.2 repository hr

theorem Traced.same {event : Event engineInterface} {c : SimulatedCluster} (h : Traced e w)
    (same : SameContents w.2 c)
    (none : ∀ x ∈ traffic [event], ∀ name stream, ¬ Completes e.ns name stream x) :
    Traced e (w.1 ++ [event], c) ∧ Carried e w (w.1 ++ [event], c) := by
  refine h.kept same.ns (fun key pod hp => ?_) (streamsKept_of_eq (by rw [same.objects])) none
  rw [same.pods] at hp
  exact h.pods key pod hp

/-- Where a build from the catalog has filled one stream, the others are as they were. -/
theorem Traced.pushed {event : Event engineInterface} {c : SimulatedCluster} {build : String}
    (h : Traced e w) (ns : c.ns = w.2.ns) (pods : PodsSound c)
    (streams : ∀ name, (c.objects.get .imageStream).get? name =
      ((w.2.objects.get .imageStream).get? name).map fun object =>
        if name = stream then { object with document := SimulatedCluster.pushed build object.document }
        else object)
    (filled : FromCatalog e stream (traffic (w.1 ++ [event])))
    (none : ∀ x ∈ traffic [event], ∀ name stream', Completes e.ns name stream' x → stream' = stream) :
    Traced e (w.1 ++ [event], c) ∧ Carried e w (w.1 ++ [event], c) := by
  have source (stream' : String) (hs : FromCatalog e stream' (traffic w.1)) :
      FromCatalog e stream' (traffic (w.1 ++ [event])) := by
    by_cases heq : stream' = stream
    · rw [heq]
      exact filled
    · rw [EngineScript.traffic_append]
      exact hs.append fun x hx name completes => heq (none x hx name stream' completes)
  refine ⟨⟨ns.trans h.ns, pods, fun stream' object' hs => ?_⟩, ⟨fun stream' repository hs => ?_, source⟩⟩
  · rw [streams] at hs
    obtain ⟨object, hold, rfl⟩ := Option.map_eq_some_iff.1 hs
    obtain ⟨status, resolved⟩ := h.streams stream' object hold
    split
    · rename_i heq
      rw [heq]
      exact ⟨(SimulatedCluster.pushed_document status build).1, fun _ => filled⟩
    · exact ⟨status, fun hr => source stream' (resolved hr)⟩
  · obtain ⟨object, hold, hr⟩ := hs
    refine ⟨_, by rw [streams, hold]; rfl, ?_⟩
    split
    · exact (SimulatedCluster.pushed_document (h.streams stream' object hold).1 build).2.trans hr
    · exact hr

/-! ### Calm requests -/

/-- Requests that make no build complete and take no stream away. -/
structure Calm (ns : String) (r : Request) : Prop where
  look : ∀ name, r ≠ .get (ResourceKind.build.instancePath ns name)
  build : r.api = .controlPlane → ∀ name, Route.ofPath ns r.path = .object .build name → r.verb ≠ .get
  stream : ∀ name, Route.ofPath ns r.path = .object .imageStream name → r.verb ≠ .delete
  create : ∀ selector body, Route.ofPath ns r.path = .collection .imageStream selector →
    r.verb = .post → r.body = some body →
    HasStatus body ∧ ImageStreamTemplate.isResolved body = false

theorem SameContents.streamsKept {c c₀ c' : SimulatedCluster} (same : SameContents c c₀)
    (h : StreamsKept c₀ c') : StreamsKept c c' := by
  constructor
  · intro stream object hs
    rw [← same.objects] at hs
    exact h.kept stream object hs
  · intro stream object hs
    rw [← same.objects]
    exact h.old stream object hs

theorem Answered.streamsKept {c c' : SimulatedCluster} {r : Request} {reply : Reply}
    (h : Answered c r reply c') (calm : Calm c.ns r) : StreamsKept c c' := by
  cases h with
  | refused same | told same | listed _ _ _ same => exact streamsKept_of_eq (by rw [same.objects])
  | erased _ _ _ _ objects => exact streamsKept_of_eq (by rw [objects])
  | removed kind name delete route _ objects =>
      have hk : kind ≠ .imageStream := by
        rintro rfl
        exact calm.stream name route delete
      refine streamsKept_of_eq ?_
      rw [objects, ByKind.get_set, if_neg hk.symm]
  | observed kind name object read plane route there same =>
      by_cases hs : kind = .imageStream
      · subst hs
        rw [← same.objects] at there
        exact same.streamsKept (streamsKept_look there)
      · have hb : kind ≠ .build := by
          rintro rfl
          exact calm.build plane name route read
        exact streamsKept_of_eq ((SimulatedCluster.streams_observe hs hb).trans (by rw [same.objects]))
  | created kind selector body name processName post route given named absent _ objects =>
      by_cases hs : kind = .imageStream
      · subst hs
        obtain ⟨status, unresolved⟩ := calm.create selector body route post given
        have inserted : c'.objects.get .imageStream =
            (c.objects.get .imageStream).insert name ⟨body, 0⟩ := by
          rw [objects, ByKind.get_set, if_pos rfl]
          rfl
        exact streamsKept_insert absent inserted status unresolved
      · refine streamsKept_of_eq ?_
        rw [objects, ByKind.get_set, if_neg (Ne.symm hs)]

section Calm

variable {ns : String}

theorem calm_get {path : String} (look : ∀ name, path ≠ ResourceKind.build.instancePath ns name)
    (route : ∀ name, Route.ofPath ns path ≠ .object .build name) : Calm ns (.get path) where
  look := fun name heq => look name (congrArg Request.path heq)
  build := fun _ name hr => absurd hr (route name)
  stream := fun _ _ => nofun
  create := fun _ _ _ => nofun

theorem calm_getObject {kind : ResourceKind} {name : String} (hk : kind ≠ .build) (hn : IsLabel name) :
    Calm ns (.get (kind.instancePath ns name)) := by
  refine calm_get (fun name' heq => hk (ResourceKind.instancePath_inj heq).1) fun name' hr => ?_
  obtain route | route := Route.ofPath_instance ns kind hn
  · cases route.symm.trans hr
    exact hk rfl
  · cases route.symm.trans hr

theorem calm_list {kind : ResourceKind} {label value : String} (hl : '=' ∉ label.toList) :
    Calm ns (.get (listPath (kind.collectionPath ns) (selectorOf label value))) := by
  refine calm_get (fun _ => Route.listPath_ne_instancePath) fun name' hr => ?_
  obtain route | route := Route.ofPath_or_unknown fun hns => Route.ofPath_listPath hns kind hl
  all_goals cases route.symm.trans hr

theorem calm_listPods {label value : String} (hl : '=' ∉ label.toList) :
    Calm ns (.get (listPath (podsPath ns) (selectorOf label value))) := by
  refine calm_get (fun _ => ResourceKind.listPods_ne_instancePath) fun name' hr => ?_
  obtain route | route := Route.ofPath_or_unknown fun hns => Route.ofPath_listPods hns hl
  all_goals cases route.symm.trans hr

/-- The path of a pod, or of what it has written, is not that of an object. -/
theorem ofPath_pod_ne_object (pod : String) (kind : ResourceKind) (name : String) :
    Route.ofPath ns (podPath ns pod) ≠ .object kind name := by
  intro hr
  by_cases hns : '?' ∈ ns.toList
  · cases (Route.ofPath_of_mem hns _).symm.trans hr
  · obtain ⟨name', route | route⟩ := Route.ofPath_podPath hns pod
    all_goals cases route.symm.trans hr

theorem calm_getLog (pod : String) : Calm ns (.get (podLogPath ns pod)) := by
  rw [podLogPath_eq]
  exact calm_get (fun _ heq => ResourceKind.instancePath_ne_podPath heq.symm)
    fun name => ofPath_pod_ne_object _ .build name

theorem calm_metrics (path : String) : Calm ns ⟨.metrics, .get, path, none⟩ where
  look := fun _ => nofun
  build := nofun
  stream := fun _ _ => nofun
  create := fun _ _ _ => nofun

theorem calm_delete {kind : ResourceKind} {name : String} (hk : kind ≠ .imageStream)
    (hn : IsLabel name) : Calm ns (.delete (kind.instancePath ns name)) where
  look := fun _ => nofun
  build := fun _ _ _ => nofun
  stream := fun name' hr => by
    obtain route | route := Route.ofPath_instance ns kind hn
    · cases route.symm.trans hr
      exact absurd rfl hk
    · cases route.symm.trans hr
  create := fun _ _ _ => nofun

theorem calm_deletePod (pod : String) : Calm ns (.delete (podPath ns pod)) where
  look := fun _ => nofun
  build := fun _ _ _ => nofun
  stream := fun name hr => absurd hr (ofPath_pod_ne_object pod .imageStream name)
  create := fun _ _ _ => nofun

theorem calm_post {kind : ResourceKind} {document : Json}
    (hs : kind = .imageStream → HasStatus document ∧ ImageStreamTemplate.isResolved document = false) :
    Calm ns (.post (kind.collectionPath ns) document) where
  look := fun _ => nofun
  build := fun _ _ _ => nofun
  stream := fun _ _ => nofun
  create := fun selector body hr _ hb => by
    obtain route | route := Route.ofPath_or_unknown fun hns => Route.ofPath_collectionPath hns kind
    · cases route.symm.trans hr
      cases hb
      exact hs rfl
    · cases route.symm.trans hr

end Calm

/-! ### Rules -/

/-- A stream has an image from the catalog, by its name in the stream's repository. -/
def Provided (e : Engine) (stream image : String) (w : Situation) : Prop :=
  ∃ repository, image = ImageStreamTemplate.imageOf repository ∧ Served stream repository w.2 ∧
    FromCatalog e stream (traffic w.1)

theorem lasting_provided {image : String} : Lasting e (Provided e stream image) := by
  intro w w' event log carried hw
  obtain ⟨repository, rfl, served, source⟩ := hw
  exact ⟨repository, rfl, carried.served _ _ served, lasting_fromCatalog w w' event log carried source⟩

/-- The task is under way, its process is in the catalog, and its stream has an image. -/
structure Supplied (e : Engine) (task : Task) (image : String) (w : Situation) : Prop where
  under : Engine.Under task w.1
  known : ∃ spec, e.catalog.get? task.processId = some spec
  provided : Provided e (sanitizeName task.processId) image w

theorem lasting_supplied {task : Task} {image : String} : Lasting e (Supplied e task image) :=
  fun w w' event log carried hw => ⟨lasting_under w w' event log carried hw.under, hw.known,
    lasting_provided w w' event log carried hw.provided⟩

/-- A document creates the batch job of the task that is under way, with the image of the stream of
its process. -/
def RunsProvided (e : Engine) (jobs : List (String × List Task)) (document : Json) (w : Situation) : Prop :=
  ∃ job ∈ jobs, ∃ task ∈ job.2, ∃ image mounts,
    document = (e.batchOf job.1 task image mounts).document ∧ Supplied e task image w

/-- The rules of work on a cluster: batch jobs get images from the catalog. -/
def provenance (e : Engine) (jobs : List (String × List Task)) : Rules engineInterface Situation where
  allows w op := ∀ document,
    op = .cluster (.send (.post (ResourceKind.batchJob.collectionPath e.ns) document)) →
      RunsProvided e jobs document w
  moves w event w' := w'.1 = w.1 ++ [event] ∧ Reacts w.2 event w'.2

end Simulation
end ImageryJobs
