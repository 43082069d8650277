import ImageryJobs.Proofs.Simulation.Readiness

/-!
The stages of a task in an undisturbed run. Where nobody else works, every stage ends well: an image
is taken if its stream has one, and is built otherwise; the batch job succeeds; and at the end a task
has left its output volume and an image in the stream of its process, and nothing else.
-/

namespace ImageryJobs.Simulation

open SimulatedCluster

/-- Nobody builds, and nothing runs. -/
structure View.Idle (v : View) : Prop where
  builds : ∀ name, v.objects .build name = none
  batches : ∀ name, v.objects .batchJob name = none
  pods : ∀ key, v.pods key = none

theorem View.Idle.set {v : View} {kind : ResourceKind} {name : String} {object : Option StoredObject}
    (h : v.Idle) (hb : kind ≠ .build) (hj : kind ≠ .batchJob) : (v.set kind name object).Idle := by
  refine ⟨?_, ?_, h.pods⟩
  · rw [View.objects_set_of_ne hb.symm]
    exact h.builds
  · rw [View.objects_set_of_ne hj.symm]
    exact h.batches

/-- A stream has an image, or is not there. -/
def Streamed (ns stream : String) (held : Bool) (v : View) : Prop :=
  if held then ∃ object, v.objects .imageStream stream = some object ∧
    Imaged ns stream true object.document
  else v.objects .imageStream stream = none

/-! ### Images -/

section Images

variable {ns : String} {looks : Nat} {v : View} {l : List Mark} {w : Situation} {b : ImageBuild}
  {t : ImageStreamTemplate} {object : StoredObject} {filled : Bool}
  (hns : '?' ∉ ns.toList) (label : IsLabel t.template.name) (ht : b.stream.template = t.template)
include hns label ht

theorem existingImage_of_absent (absent : v.objects .imageStream t.template.name = none)
    (hw : At ns looks v l w) :
    MeetsOr course.within (b.existingImage ns) w
      (fun found w => found = none ∧ At ns looks v l w) fun _ _ => False := by
  have path : b.stream.path ns = ResourceKind.imageStream.instancePath ns t.template.name := by
    rw [Resource.path, Resource.kind, Resource.name, ht]
    rfl
  refine ImageBuild.meetsOr_existingImage.2 ?_
  rw [path]
  have read : (Request.get (ResourceKind.imageStream.instancePath ns t.template.name)).verb ≠ .post := by
    intro heq
    cases heq
  obtain ⟨allowed, step⟩ := step_quiet read (effect_get_of_absent hns label absent) w hw
  refine ⟨allowed, fun reply w' moved => ?_⟩
  obtain ⟨_, ⟨rfl, rfl⟩, hw'⟩ := step reply w' moved
  exact ⟨rfl, hw'⟩

/-- What a look at a stream with a repository tells. -/
theorem look_imaged (there : v.objects .imageStream t.template.name = some object)
    (imaged : Imaged ns t.template.name filled object.document) :
    course.within.Step (At ns looks v l) (.send (.get (b.stream.path ns))) fun (reply : Reply) w =>
      Resource.fetched reply = .ok (some object.document) ∧
      At ns looks (v.set .imageStream t.template.name (some ⟨object.document, object.looks + 1⟩)) l w := by
  have path : b.stream.path ns = ResourceKind.imageStream.instancePath ns t.template.name := by
    rw [Resource.path, Resource.kind, Resource.name, ht]
    rfl
  rw [path]
  have read : (Request.get (ResourceKind.imageStream.instancePath ns t.template.name)).verb ≠ .post := by
    intro heq
    cases heq
  intro w hw
  obtain ⟨allowed, step⟩ := step_quiet read (effect_get_stream hns label there) w hw
  refine ⟨allowed, fun reply w' moved => ?_⟩
  obtain ⟨_, ⟨rfl, rfl⟩, hw'⟩ := step reply w' moved
  rw [imaged.served] at hw' ⊢
  exact ⟨rfl, hw'⟩

theorem existingImage_of_imaged (there : v.objects .imageStream t.template.name = some object)
    (imaged : Imaged ns t.template.name filled object.document) (hw : At ns looks v l w) :
    MeetsOr course.within (b.existingImage ns) w
      (fun found w => found = ImageBuild.imageIn object.document ∧
        At ns looks (v.set .imageStream t.template.name (some ⟨object.document, object.looks + 1⟩)) l w)
      fun _ _ => False := by
  refine ImageBuild.meetsOr_existingImage.2 ?_
  obtain ⟨allowed, step⟩ := look_imaged hns label ht there imaged w hw
  refine ⟨allowed, fun reply w' moved => ?_⟩
  obtain ⟨fetched, hw'⟩ := step reply w' moved
  rw [fetched]
  exact ⟨rfl, hw'⟩

/-- Where nobody builds there is nobody to wait for. -/
theorem awaitPeers_alone {watch : Watch} (interval : 0 < watch.interval) (time : 0 < watch.timeout)
    (builds : ∀ name, v.objects .build name = none)
    (there : v.objects .imageStream t.template.name = some object)
    (imaged : Imaged ns t.template.name false object.document) (hw : At ns looks v l w) :
    MeetsOr course.within (b.awaitPeers ns watch) w
      (fun found w => found = none ∧
        At ns looks (v.set .imageStream t.template.name (some ⟨object.document, object.looks + 1⟩)) l w)
      fun _ _ => False := by
  let v' := v.set .imageStream t.template.name (some ⟨object.document, object.looks + 1⟩)
  have awaiting : ImageBuild.Awaiting course.within ns b (fun _ _ => False)
      (fun k w => k = 0 ∧ At ns looks v l w)
      (fun _ builds w => Calling.listed builds = .ok [] ∧ At ns looks v l w)
      (fun _ builds reply w => Calling.listed builds = .ok [] ∧
        Resource.fetched reply = .ok (some object.document) ∧ At ns looks v' l w) fun _ => False := by
    refine ⟨fun _ _ _ h => h.elim, fun _ w ⟨_, hw⟩ => ?_, fun _ _ w ⟨hl, hw⟩ => ?_,
      fun _ _ items _ _ ⟨hl, _⟩ hl' other => ?_⟩
    · have read : (Request.get (listPath (ResourceKind.build.collectionPath ns)
          (selectorOf processLabel b.stream.name))).verb ≠ .post := nofun
      obtain ⟨allowed, step⟩ := step_quiet read (effect_list_builds hns (by decide) builds) w hw
      refine ⟨allowed, fun reply w' moved => ?_⟩
      obtain ⟨_, ⟨rfl, listed⟩, hw'⟩ := step reply w' moved
      exact ⟨listed, hw'⟩
    · obtain ⟨allowed, step⟩ := look_imaged hns label ht there imaged w hw
      refine ⟨allowed, fun reply w' moved => ?_⟩
      obtain ⟨fetched, hw'⟩ := step reply w' moved
      exact ⟨hl, fetched, hw'⟩
    · cases hl.symm.trans hl'
      exact absurd rfl other
  refine (ImageBuild.meetsOr_awaitPeers awaiting ⟨rfl, hw⟩).mono (fun found w h => ?_) fun _ w h => ?_
  · obtain ⟨_, _, _, _, stream, ⟨_, fetched, hw⟩, _, fetched', rfl, _⟩ := h
    cases fetched.symm.trans fetched'
    exact ⟨imaged.imageIn, hw⟩
  · obtain h | ⟨k, ⟨rfl, _⟩, spent | spent⟩ | ⟨_, _, _, ⟨hl, _⟩, he⟩ | ⟨_, _, _, _, ⟨_, fetched, _⟩, he⟩ := h
    · exact h
    · rw [Nat.zero_mul] at spent
      exact absurd spent (Nat.not_le.2 time)
    · exact absurd spent interval.ne'
    · cases hl.symm.trans he
    · cases fetched.symm.trans he

end Images

/-- What is noted of a build: nothing if an image was held. -/
def builtUnless (held : Bool) (document : Json) : List Mark := if held then [] else [.build document]

/-- An image is there for a process, and was there before if it was held. -/
def Equipped (ns : String) (looks : Nat) (stream : String) (held : Bool) (v : View) (l : List Mark)
    (image : String) (reused : Bool) (w : Situation) : Prop :=
  image = ImageStreamTemplate.imageOf (repositoryIn ns stream) ∧ reused = held ∧
    ∃ object : StoredObject, Imaged ns stream true object.document ∧
      At ns looks (v.set .imageStream stream (some object)) l w

/-- An image is taken where there is one, and is built where there is none. -/
theorem run_completes {ns : String} {looks : Nat} {v : View} {l : List Mark} {w : Situation}
    {stream : ImageStreamTemplate} {build : BuildTemplate} {watch : Watch} {held : Bool}
    (hns : '?' ∉ ns.toList) (interval : 0 < watch.interval)
    (time : (looks - 1) * watch.interval < watch.timeout) (label : IsLabel stream.template.name)
    (label' : IsLabel build.template.name) (same : build.imageStream = stream.template.name)
    (idle : v.Idle) (streamed : Streamed ns stream.template.name held v) (hw : At ns looks v l w) :
    MeetsWith course.within (ImageBuild.run ns watch) (.ofTemplates stream build) w
      (fun built _ => Equipped ns looks stream.template.name held v
        (l ++ builtUnless held build.template.document) built.image built.reused)
      (fun _ b _ => b.build.template = build.template ∧ False) := by
  let name := stream.template.name
  let provided := Equipped ns looks name held v (l ++ builtUnless held build.template.document)
  have colon : ':' ∉ build.imageStream.toList := by
    rw [same]
    exact label.notMem (by decide) (by decide)
  have positive : 0 < watch.timeout := Nat.lt_of_le_of_lt (Nat.zero_le _) time
  -- The stream as it is while it has no image.
  let shown (object : Json) (w : Situation) : Prop := held = false ∧ ∃ o : StoredObject,
    object = o.document ∧ Imaged ns name false o.document ∧
      At ns looks (v.set .imageStream name (some o)) l w
  -- The view without the build, once the stream has an image.
  let filled (repository : String) (u : View) : Prop := repository = repositoryIn ns name ∧
    held = false ∧ ∃ o : StoredObject, Imaged ns name true o.document ∧
      u = v.set .imageStream name (some o)
  let built (repository : String) (w : Situation) : Prop := ∃ u, filled repository u ∧ ∃ object pod,
    IsPodOf buildPodLabel build.template.name pod ∧
      At ns looks (u.working .build build.template.name object (build.template.name ++ "-build") pod)
        (l ++ [.build build.template.document]) w
  have idle' {o : StoredObject} : (v.set .imageStream name (some o)).Idle := idle.set nofun nofun
  refine ImageBuild.meetsWith_run (fun w => held = false ∧ At ns looks v l w) shown shown built provided
    (fun _ => False) ?existing (fun w ⟨hh, hw⟩ => ?create)
    (fun (b : ImageBuild) object w (hb : b.stream.template = stream.template) _
      ⟨hh, o, ho, imaged, hw⟩ => ?await)
    (fun object w ⟨_, o, ho, imaged, _⟩ nameless => ?unnamed)
    (fun object repository w ⟨hh, o, ho, imaged, hw⟩ given => ?build)
    (fun repository request h w ⟨u, hu, object, pod, own, hw⟩ => ?inspect)
    (fun repository => ?remove) rfl
  case existing =>
    cases held with
    | true =>
        obtain ⟨object, there, imaged⟩ := streamed
        refine (existingImage_of_imaged hns label rfl there imaged hw).mono (fun found w ⟨hf, hw⟩ => ?_)
          fun _ _ h => h
        rw [hf, imaged.imageIn, if_pos rfl]
        exact ⟨rfl, rfl, ⟨object.document, object.looks + 1⟩, imaged, by simpa [builtUnless] using hw⟩
    | false =>
        refine (existingImage_of_absent hns label rfl streamed hw).mono (fun found w ⟨hf, hw⟩ => ?_)
          fun _ _ h => h
        rw [hf]
        exact ⟨rfl, hw⟩
  case create =>
    subst hh
    refine (create_stream hns interval label positive streamed rfl hw).mono
      (fun _ r w ⟨ht, object, ho, imaged, hw⟩ => ⟨ht, _, ho, rfl, object, rfl, imaged, hw⟩) fun _ _ _ h => h
  case await =>
    have there : (v.set .imageStream name (some o)).objects .imageStream name = some o :=
      View.objects_set_self
    refine (awaitPeers_alone hns label hb interval positive idle'.builds there imaged hw).mono
      (fun found w ⟨hf, hw⟩ => ?_) fun _ _ h => h
    rw [View.set_set] at hw
    rw [hf]
    exact ⟨hh, ⟨o.document, o.looks + 1⟩, ho, imaged, hw⟩
  case unnamed =>
    rw [ho, imaged.repository] at nameless
    cases nameless
  case build =>
    rw [ho, imaged.repository] at given
    have there : (v.set .imageStream name (some o)).objects .imageStream build.imageStream = some o := by
      rw [same]
      exact View.objects_set_self
    refine (create_build hns interval label' colon time (idle'.builds _) idle'.pods there rfl hw).mono
      (fun _ r w ⟨ht, object, pod, own, hw⟩ => ?_) fun _ _ _ h => ⟨h.elim, h⟩
    rw [same, View.set_set] at hw
    exact ⟨ht, _, ⟨(Option.some.inj given).symm, hh, ⟨pushed build.template.name o.document, o.looks⟩,
      imaged.pushed _, rfl⟩, object, pod, own, hw⟩
  case inspect =>
    have selector : build.template.podSelector = some (selectorOf buildPodLabel build.template.name) := rfl
    obtain ⟨allowed, kept⟩ := inspect_working hns selector (by decide) h w hw
    exact ⟨allowed, fun answer w' moved => ⟨u, hu, object, pod, own, kept answer w' moved⟩⟩
  case remove =>
    refine ⟨_, _, removing_working hns label' (filled repository) rfl rfl (by decide)
      (fun u ⟨_, _, o, _, hu⟩ => ?_) (fun u ⟨_, _, o, _, hu⟩ => ?_), fun _ h => h,
      fun w ⟨pods, ⟨bare, _⟩, more⟩ => more (bare pods rfl),
      fun pods w ⟨_, u, ⟨hr, hh, o, imaged, hu⟩, hw⟩ => ?_⟩
    · rw [hu]
      exact idle'.builds _
    · rw [hu]
      exact idle'.pods
    · subst hr hh hu
      exact ⟨rfl, rfl, o, imaged, hw⟩

/-! ### Tasks -/

/-- Nothing stops the runs of an engine on a cluster that completes builds and batch jobs at a certain
look: paths name what they should, and that look comes before the deadlines. -/
structure InTime (e : Engine) (looks : Nat) : Prop where
  ns : '?' ∉ e.ns.toList
  interval : 0 < e.config.cluster.pollInterval
  watch : 0 < e.config.cluster.watchTimeout
  build : (looks - 1) * e.config.cluster.pollInterval < e.config.buildTimeout
  batch : (looks - 1) * e.config.cluster.pollInterval < e.config.batchTimeout

section Tasks

variable {e : Engine} {looks : Nat} {jobId : String} {task : Task} {v : View} {l : List Mark}
  {w : Situation} {held : Bool} (time : InTime e looks)
include time

theorem buildImage_completes {spec : ImageSpec} (hspec : e.catalog.get? task.processId = some spec)
    (idle : v.Idle) (streamed : Streamed e.ns (sanitizeName task.processId) held v)
    (hw : At e.ns looks v l w) :
    MeetsOr course (e.buildImage jobId task) w
      (fun built => Equipped e.ns looks (sanitizeName task.processId) held v
        (l ++ builtUnless held (Engine.buildOf jobId task spec.source).document) built.image built.reused)
      fun _ _ => False := by
  let provided (built : BuiltImage) : Situation → Prop :=
    Equipped e.ns looks (sanitizeName task.processId) held v
      (l ++ builtUnless held (Engine.buildOf jobId task spec.source).document) built.image built.reused
  refine Engine.meetsOr_buildImage provided (fun _ => False) (fun _ => False) (fun unknown => ?_)
    (fun spec' hspec' => ?_) (fun _ _ _ _ _ h => h.elim) fun _ _ => ?_
  · cases hspec.symm.trans unknown
  · cases hspec.symm.trans hspec'
    exact run_completes time.ns time.interval time.build (isLabel_sanitizeName task.processId)
      (isLabel_objectName .build jobId task.id) rfl idle streamed hw
  · exact Resource.Clearing.of_preserves (fun _ h => h.elim) (fun _ _ _ h => h.elim) fun _ _ _ _ h => h.elim

/-- A batch job succeeds, and nothing of it stays. -/
theorem deploy_completes {image : String} {config : Resource} {output : HeldVolume Resource}
    {inputs : List (HeldVolume Resource)} (idle : v.Idle) (hw : At e.ns looks v l w) :
    MeetsOr course (e.deploy jobId task image config output inputs) w
      (fun _ => At e.ns looks v (l ++ [.batch])) fun _ _ => False := by
  let t : BatchTemplate := .forTask jobId task.id task.processId image
    (e.mounts jobId config output inputs) (e.catalog.resourcesFor task.processId)
  have label : IsLabel t.template.name := isLabel_objectName .batchJob jobId task.id
  let known (u : View) : Prop := u = v
  let succeeded (w : Situation) : Prop := ∃ u, known u ∧ ∃ object pod,
    IsPodOf batchPodLabel t.template.name pod ∧
      At e.ns looks (u.working .batchJob t.template.name object (t.template.name ++ "-pod") pod)
        (l ++ [.batch]) w
  have selector : t.template.podSelector = some (selectorOf batchPodLabel t.template.name) := rfl
  have removing : Resource.Removing course.within e.ns t.template succeeded (fun _ => False)
      fun pods w => (∀ answer, pods = some answer → Calling.listed answer = .ok []) ∧
        ∃ u, known u ∧ At e.ns looks u (l ++ [.batch]) w :=
    removing_working time.ns label known rfl selector (by decide) (fun u hu => hu ▸ idle.batches _)
      fun u hu => hu ▸ idle.pods
  refine Engine.meetsOr_deploy succeeded (fun _ => False) (At e.ns looks v (l ++ [.batch])) (fun _ => False) rfl
    ((create_batch time.ns time.interval label time.batch (idle.batches _) idle.pods rfl hw).mono
      (fun _ r w ⟨ht, object, pod, own, hw⟩ => ⟨ht, v, rfl, object, pod, own, hw⟩) fun _ _ _ h => ⟨h.elim, h⟩)
    (fun request h w ⟨u, hu, object, pod, own, hw⟩ => ?_) (fun _ _ _ h => h.elim)
    (fun path w ⟨u, hu, object, pod, own, hw⟩ => ?_) ⟨_, _, removing, fun _ h => h.elim, ?_⟩ ?_
  · obtain ⟨allowed, kept⟩ := inspect_working time.ns selector (by decide) h w hw
    exact ⟨allowed, fun answer w' moved => ⟨u, hu, object, pod, own, kept answer w' moved⟩⟩
  · have read : (Request.mk .metrics .get path none).verb ≠ .post := nofun
    obtain ⟨allowed, step⟩ := step_quiet read effect_get_metrics w hw
    refine ⟨allowed, fun answer w' moved => ?_⟩
    obtain ⟨_, rfl, hw'⟩ := step answer w' moved
    exact ⟨u, hu, object, pod, own, hw'⟩
  · intro pods w ⟨_, u, hu, hw⟩
    exact hu ▸ hw
  · exact Resource.Clearing.of_preserves (fun _ h => h.elim) (fun _ _ _ h => h.elim) fun _ _ _ _ h => h.elim

/-- A task that is carried out leaves its volume, its config map and an image. -/
theorem execute_completes {spec : ImageSpec} {output : HeldVolume Resource} {config : Resource}
    {inputs : List (HeldVolume Resource)} {mounts : List String}
    (hspec : e.catalog.get? task.processId = some spec) (idle : v.Idle)
    (streamed : Streamed e.ns (sanitizeName task.processId) held v)
    (fresh : v.objects .volume (e.volumeOf jobId task).name = none)
    (free : ∀ name, v.objects .config name = none)
    (ho : output.resource.template = e.volumeOf jobId task)
    (hc : config.template = Engine.configOf jobId task mounts) (hw : At e.ns looks v l w) :
    (e.execute jobId task output config inputs).Meets course w fun p w =>
      p.2.producer = output.producer ∧ p.2.resource.template = e.volumeOf jobId task ∧
        Ending (fun outcome w => ∃ volume files,
          Equipped e.ns looks (sanitizeName task.processId) held
            ((v.set .volume (e.volumeOf jobId task).name (some volume)).set .config
              (Engine.configOf jobId task mounts).name (some files))
            (l ++ builtUnless held (Engine.buildOf jobId task spec.source).document ++ [.batch])
            outcome.image outcome.imageReused w) (fun _ _ => False) p.1 w := by
  let bound (w : Situation) : Prop := ∃ volume,
    At e.ns looks (v.set .volume (e.volumeOf jobId task).name (some volume)) l w
  let configured (w : Situation) : Prop := ∃ volume files,
    At e.ns looks ((v.set .volume (e.volumeOf jobId task).name (some volume)).set .config
      (Engine.configOf jobId task mounts).name (some files)) l w
  let provided (l : List Mark) (built : BuiltImage) (w : Situation) : Prop := ∃ volume files,
    Equipped e.ns looks (sanitizeName task.processId) held
      ((v.set .volume (e.volumeOf jobId task).name (some volume)).set .config
        (Engine.configOf jobId task mounts).name (some files)) l built.image built.reused w
  let noted : List Mark := l ++ builtUnless held (Engine.buildOf jobId task spec.source).document
  have idle' {volume files : StoredObject} : ((v.set .volume (e.volumeOf jobId task).name
      (some volume)).set .config (Engine.configOf jobId task mounts).name (some files)).Idle :=
    (idle.set (by decide) (by decide)).set (by decide) (by decide)
  refine Script.Meets.mono (Engine.meets_execute bound configured (provided noted)
    (provided (noted ++ [.batch])) (fun _ => False)
    ?volume (fun w ⟨volume, hw⟩ => ?files) (fun w ⟨volume, files, hw⟩ => ?image)
    fun config' output' built w _ _ _ _ ⟨volume, files, himage, hreused, object, imaged, hw⟩ => ?batch)
    fun p w ⟨producer, resource, ended⟩ => ⟨producer, resource.trans ho, ?outcome⟩
  case volume =>
    rw [ho]
    exact (create_volume (t := .forTask jobId task.id e.config.cluster) time.ns time.interval
      (isLabel_objectName .volume jobId task.id) time.watch fresh ho hw).mono
      (fun _ r w ⟨ht, volume, hw⟩ => ⟨ht, volume, hw⟩) fun _ _ _ h => h.elim
  case files =>
    rw [hc]
    refine (create_config (t := .forTask jobId task.id task.args mounts) time.ns time.interval
      (isLabel_objectName .config jobId task.id) time.watch ?_ hc hw).mono
      (fun _ r w ⟨ht, files, hw⟩ => ⟨ht, volume, files, hw⟩) fun _ _ _ h => h.elim
    rw [View.objects_set_of_ne (by decide)]
    exact free _
  case image =>
    have streamed' : Streamed e.ns (sanitizeName task.processId) held ((v.set .volume
        (e.volumeOf jobId task).name (some volume)).set .config
        (Engine.configOf jobId task mounts).name (some files)) := by
      rw [Streamed, View.objects_set_of_ne (by decide), View.objects_set_of_ne (by decide)]
      exact streamed
    exact (buildImage_completes time hspec idle' streamed' hw).mono
      (fun built w h => ⟨volume, files, h⟩) fun _ _ h => h
  case batch =>
    exact (deploy_completes time (idle'.set (by decide) (by decide)) hw).mono
      (fun _ w hw => ⟨volume, files, himage, hreused, object, imaged, hw⟩) fun _ _ h => h
  case outcome =>
    cases hp : p.1 with
    | error _ =>
        rw [hp] at ended
        exact ended
    | ok outcome =>
        rw [hp] at ended
        obtain ⟨built, himage, hreused, done⟩ := ended
        rw [Ending, himage, hreused]
        exact done

/-- Volumes that are deleted are gone afterwards. -/
theorem discardAll_completes {volumes : List (HeldVolume Resource)}
    (owned : ∀ h ∈ volumes, ∃ owner, h.resource.template = e.volumeOf jobId owner)
    (hw : At e.ns looks v l w) :
    (volumes.forM fun h => e.discard h.resource).Meets course w fun _ =>
      At e.ns looks (v.clear .volume (volumes.map (·.resource.name))) l := by
  induction volumes generalizing v w with
  | nil => exact View.clear_nil ▸ hw
  | cons h volumes ih =>
      obtain ⟨⟨owner, ho⟩, hrest⟩ := List.forall_mem_cons.1 owned
      have label : IsLabel (e.volumeOf jobId owner).name := isLabel_objectName .volume jobId owner.id
      refine Script.meets_bind.2 (Script.Meets.mono
        (Engine.meets_discard (clear_podless time.ns label rfl rfl) ho hw) fun _ w hw => ?_)
      refine Script.Meets.mono (ih hrest hw) fun _ w hw => ?_
      have name : h.resource.name = (e.volumeOf jobId owner).name := congrArg Template.name ho
      rw [List.map_cons, name, ← View.set_none_clear]
      exact hw

end Tasks

/-! ### Between tasks -/

/-- What stands between two tasks: volumes, if they are held, and an image in each stream that was
needed. -/
structure Between (ns : String) (held : String → Prop) (needed : List String) (v : View) : Prop where
  idle : v.Idle
  configs : ∀ name, v.objects .config name = none
  volumes : ∀ name, ¬ held name → v.objects .volume name = none
  streams : ∀ name, Streamed ns name (decide (name ∈ needed)) v

theorem between_nothing {ns : String} :
    Between ns (fun _ => False) [] ⟨fun _ _ => none, fun _ => none⟩ :=
  ⟨⟨fun _ => rfl, fun _ => rfl, fun _ => rfl⟩, fun _ => rfl, fun _ _ => rfl, fun _ => rfl⟩

theorem Between.clear {ns : String} {held held' : String → Prop} {needed names : List String} {v : View}
    (h : Between ns held needed v) (rest : ∀ name, held name → name ∈ names ∨ held' name) :
    Between ns held' needed (v.clear .volume names) := by
  have others (kind : ResourceKind) (hk : kind ≠ .volume) :
      (v.clear .volume names).objects kind = v.objects kind :=
    funext fun name => if_neg fun heq => hk heq.1
  refine ⟨⟨?_, ?_, h.idle.pods⟩, ?_, fun name free => ?_, fun name => ?_⟩
  · rw [others .build (by decide)]
    exact h.idle.builds
  · rw [others .batchJob (by decide)]
    exact h.idle.batches
  · rw [others .config (by decide)]
    exact h.configs
  · rw [View.objects_clear]
    split
    · rfl
    · rename_i kept
      exact h.volumes name fun hn => (rest name hn).elim (fun hm => kept ⟨rfl, hm⟩) free
  · rw [Streamed, others .imageStream (by decide)]
    exact h.streams name

/-- A task adds its volume, and an image in the stream of its process. -/
theorem Between.work {ns stream volumeName configName : String} {held : String → Prop}
    {needed : List String} {v : View} {volume files object : StoredObject} (h : Between ns held needed v)
    (imaged : Imaged ns stream true object.document) :
    Between ns (fun name => name = volumeName ∨ held name) (needed ++ [stream])
      ((((v.set .volume volumeName (some volume)).set .config configName (some files)).set .imageStream
        stream (some object)).set .config configName none) := by
  rw [View.set_comm (by decide), View.set_set]
  refine ⟨((h.idle.set (by decide) (by decide)).set (by decide) (by decide)).set (by decide) (by decide),
    fun name => ?_, fun name free => ?_, fun name => ?_⟩
  · rw [View.objects_set_of_ne (by decide), View.objects_set]
    split
    · rfl
    · rw [View.objects_set_of_ne (by decide)]
      exact h.configs name
  · rw [View.objects_set_of_ne (by decide), View.objects_set_of_ne (by decide), View.objects_set,
      if_neg fun heq => free (.inl heq.2)]
    exact h.volumes name fun hn => free (.inr hn)
  · by_cases hn : name = stream
    · subst hn
      rw [decide_eq_true (List.mem_append_right _ List.mem_cons_self)]
      exact ⟨object, View.objects_set_self, imaged⟩
    · have same : decide (name ∈ needed ++ [stream]) = decide (name ∈ needed) := by simp [hn]
      have kept : (((v.set .volume volumeName (some volume)).set .config configName none).set .imageStream
          stream (some object)).objects .imageStream name = v.objects .imageStream name := by
        rw [View.objects_set, if_neg fun heq => hn heq.2, View.objects_set_of_ne (by decide),
          View.objects_set_of_ne (by decide)]
      rw [same, Streamed, kept]
      exact h.streams name

end ImageryJobs.Simulation
