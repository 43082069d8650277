import ImageryJobs.Proofs.Simulation.Lifecycles

/-!
Objects that become ready in an undisturbed run. Volumes, config maps and image streams are ready at
the first look; a build fills its stream, and a batch job succeeds, at the look at which the cluster
completes them.
-/

namespace ImageryJobs

namespace ConfigTemplate

/-- A config map is ready as it was sent. -/
theorem readiness_document (t : ConfigTemplate) : t.readiness t.template.document = .ready := by
  have data : t.template.document.get? "data" = some (.ofDict t.data .string) := by
    simp [template, manifest, Manifest.ConfigMap.toJson, Json.get?_mk, Dict.ofList]
  refine if_pos (List.all_eq_true.2 fun entry hm => ?_)
  have entry : (Json.ofDict t.data .string).get? entry.1 = some (.string entry.2) := by
    have there : t.data.get? entry.1 = some entry.2 := Dict.get?_eq_some_iff.2 hm
    simp [Json.ofDict, Json.get?, there]
  simp [Template.textAt, Json.path?_pair, data, entry, Json.string?]

end ConfigTemplate

namespace Simulation

open SimulatedCluster

/-! ### Documents -/

/-- A stream has the repository of its name, and has an image or not. -/
structure Imaged (ns name : String) (filled : Bool) (document : Json) : Prop where
  status : HasStatus document
  repository : ImageStreamTemplate.repository? document = some (repositoryIn ns name)
  resolved : ImageStreamTemplate.isResolved document = filled

theorem repositoryIn_ne_empty (ns name : String) : repositoryIn ns name ≠ "" := by
  have parts : repositoryIn ns name = "image-registry.local:5000/" ++ ns ++ "/" ++ name := by
    unfold repositoryIn
    simp only [toString]
  intro h
  have slash : '/' ∈ (repositoryIn ns name).toList := by
    rw [parts, String.toList_append, String.toList_append]
    simp
  rw [h] at slash
  cases slash

section

variable {ns name : String} {filled : Bool} {document : Json}

/-- A look gives a new stream its repository, and no image. -/
theorem imaged_of_new (t : ImageStreamTemplate) :
    Imaged ns name false (served (repositoryIn ns name) t.template.document) := by
  have status := hasStatus_stream t
  have unserved : t.template.document.path? ["status", "dockerImageRepository"] = none := path?_stream t _
  rw [served, unserved, if_neg (by simp)]
  refine ⟨status.setStatus, ?_, ?_⟩
  · rw [ImageStreamTemplate.repository?, Template.textAt, path?_setStatus status, if_pos rfl]
    simp [Json.string?, Option.filter, repositoryIn_ne_empty]
  · rw [ImageStreamTemplate.isResolved, path?_setStatus status, if_neg (by decide), path?_stream]
    rfl

/-- A look at a stream with a repository changes nothing of it. -/
theorem Imaged.served (h : Imaged ns name filled document) (repository : String) :
    served repository document = document := by
  refine if_pos ?_
  have given := h.repository
  rw [ImageStreamTemplate.repository?, Template.textAt] at given
  cases hp : document.path? ["status", "dockerImageRepository"] with
  | some _ => rfl
  | none =>
      rw [hp] at given
      cases given

theorem Imaged.pushed (h : Imaged ns name filled document) (build : String) :
    Imaged ns name true (pushed build document) := by
  obtain ⟨status, repository⟩ := pushed_document h.status build
  refine ⟨status, repository.trans h.repository, ?_⟩
  rw [ImageStreamTemplate.isResolved, SimulatedCluster.pushed, path?_setStatus h.status, if_pos rfl]
  simp [tagsOf, Json.items?, Template.textAt, Json.path?, Json.get?_mk, Dict.ofList, Json.string?]

theorem Imaged.imageIn (h : Imaged ns name filled document) : ImageBuild.imageIn document =
    if filled then some (ImageStreamTemplate.imageOf (repositoryIn ns name)) else none := by
  rw [ImageBuild.imageIn, h.resolved, h.repository]
  rfl

end

theorem isObject_initialDocument {kind : ResourceKind} {document : Json} (h : document.isObject = true) :
    (initialDocument kind document).isObject = true := by
  unfold initialDocument
  split
  · exact isObject_setMember h
  · exact h

/-! ### Objects that are ready in time -/

section

variable {ns : String} {looks : Nat} {v : View} {l : List Mark} {w : Situation} {r : Resource}
  {watch : Watch} (hns : '?' ∉ ns.toList) (interval : 0 < watch.interval)
include hns interval

theorem create_volume {t : VolumeTemplate} (label : IsLabel t.template.name)
    (time : 0 < watch.timeout) (absent : v.objects .volume t.template.name = none)
    (hr : r.template = t.template) (hw : At ns looks v l w) :
    MeetsWith course.within (Resource.create ns true watch) r w
      (fun _ r w => r.template = t.template ∧ ∃ object,
        At ns looks (v.set .volume t.template.name (some object)) l w)
      fun _ _ _ => False := by
  have document : (initialDocument .volume t.template.document).isObject = true :=
    isObject_initialDocument rfl
  have look : Effect ns looks (.get (ResourceKind.volume.instancePath ns t.template.name))
      (v.set .volume t.template.name (some ⟨initialDocument .volume t.template.document, 0⟩))
      fun reply v' => ∃ object, reply = .ok (.json object.document) ∧
        Template.phaseOf object.document = some "Bound" ∧
          v' = v.set .volume t.template.name (some object) := by
    refine (effect_get_volume hns label View.objects_set_self).mono fun reply v' ⟨hreply, hv⟩ => ?_
    rw [View.set_set] at hv
    have bound : Template.phaseOf (setMember "status" (phaseStatus "Bound")
        (initialDocument .volume t.template.document)) = some "Bound" := phaseOf_setStatus document
    exact ⟨⟨setMember "status" (phaseStatus "Bound") (initialDocument .volume t.template.document), 1⟩,
      hreply, bound, hv⟩
  refine (create_podless hns (fun object => Template.phaseOf object.document = some "Bound")
    t.isNamed rfl rfl absent look (fun object bound => ?_) interval time hr hw).mono
    (fun _ r w ⟨ht, object, _, _, hw⟩ => ⟨ht, object, hw⟩) fun _ _ _ h => h
  change VolumeTemplate.readiness object.document = .ready
  simp [VolumeTemplate.readiness, bound]

theorem create_config {t : ConfigTemplate} (label : IsLabel t.template.name)
    (time : 0 < watch.timeout) (absent : v.objects .config t.template.name = none)
    (hr : r.template = t.template) (hw : At ns looks v l w) :
    MeetsWith course.within (Resource.create ns true watch) r w
      (fun _ r w => r.template = t.template ∧ ∃ object,
        At ns looks (v.set .config t.template.name (some object)) l w)
      fun _ _ _ => False := by
  have look : Effect ns looks (.get (ResourceKind.config.instancePath ns t.template.name))
      (v.set .config t.template.name (some ⟨t.template.document, 0⟩)) fun reply v' => ∃ object,
        reply = .ok (.json object.document) ∧ object.document = t.template.document ∧
          v' = v.set .config t.template.name (some object) := by
    refine (effect_get_config hns label View.objects_set_self).mono fun reply v' ⟨hreply, hv⟩ => ?_
    rw [View.set_set] at hv
    exact ⟨⟨t.template.document, 1⟩, hreply, rfl, hv⟩
  refine (create_podless hns (fun object => object.document = t.template.document)
    t.isNamed rfl rfl absent look (fun object same => ?_) interval time hr hw).mono
    (fun _ r w ⟨ht, object, _, _, hw⟩ => ⟨ht, object, hw⟩) fun _ _ _ h => h
  rw [same]
  exact t.readiness_document

theorem create_stream {t : ImageStreamTemplate} (label : IsLabel t.template.name)
    (time : 0 < watch.timeout) (absent : v.objects .imageStream t.template.name = none)
    (hr : r.template = t.template) (hw : At ns looks v l w) :
    MeetsWith course.within (Resource.create ns true watch) r w
      (fun _ r w => r.template = t.template ∧ ∃ object, r.observed = some object.document ∧
        Imaged ns t.template.name false object.document ∧
        At ns looks (v.set .imageStream t.template.name (some object)) l w)
      fun _ _ _ => False := by
  have look : Effect ns looks (.get (ResourceKind.imageStream.instancePath ns t.template.name))
      (v.set .imageStream t.template.name (some ⟨t.template.document, 0⟩)) fun reply v' => ∃ object,
        reply = .ok (.json object.document) ∧ Imaged ns t.template.name false object.document ∧
          v' = v.set .imageStream t.template.name (some object) := by
    refine (effect_get_stream hns label View.objects_set_self).mono fun reply v' ⟨hreply, hv⟩ => ?_
    rw [View.set_set] at hv
    exact ⟨⟨served (repositoryIn ns t.template.name) t.template.document, 1⟩, hreply, imaged_of_new t, hv⟩
  refine create_podless hns (fun object => Imaged ns t.template.name false object.document)
    t.isNamed rfl rfl absent look (fun object imaged => ?_) interval time hr hw
  change ImageStreamTemplate.readiness object.document = .ready
  rw [ImageStreamTemplate.readiness, imaged.repository]
  rfl

omit hns interval in
theorem readiness_build_none {document : Json} {phase : String}
    (h : Template.phaseOf document = some phase) (hp : phase = "Running" ∨ phase = "Complete")
    (reason : String) : BuildTemplate.readiness document none ≠ .failed reason := by
  change BuildTemplate.ownReadiness document ≠ _
  rw [BuildTemplate.ownReadiness, h]
  obtain rfl | rfl := hp <;> nofun

/-- A build for a stream is created, and fills the stream. -/
theorem create_build {t : BuildTemplate} {held : StoredObject} (label : IsLabel t.template.name)
    (stream : ':' ∉ t.imageStream.toList)
    (time : (looks - 1) * watch.interval < watch.timeout)
    (absent : v.objects .build t.template.name = none) (podless : ∀ key, v.pods key = none)
    (there : v.objects .imageStream t.imageStream = some held)
    (hr : r.template = t.template) (hw : At ns looks v l w) :
    MeetsWith course.within (Resource.create ns true watch) r w
      (fun _ r w => r.template = t.template ∧ ∃ object pod, IsPodOf buildPodLabel t.template.name pod ∧
        At ns looks ((v.set .imageStream t.imageStream
            (some { held with document := pushed t.template.name held.document })).working
          .build t.template.name object (t.template.name ++ "-build") pod)
          (l ++ [.build t.template.document]) w)
      fun _ _ _ => False := by
  have target : targetOf t.template.document = some t.imageStream := targetOf_build t stream
  refine create_working hns
    (fun document => document.isObject = true ∧ targetOf document = some t.imageStream) t.isNamed rfl rfl
    (by decide) (by decide) absent podless
    ⟨isObject_initialDocument rfl, (targetOf_setStatus (j := t.template.document)).trans target⟩
    (fun object pod ⟨hobject, htarget⟩ own => ?_) interval time hr hw
  by_cases early : object.looks + 1 < looks
  · refine (effect_get_build_early hns label early).mono fun reply v' ⟨hreply, hv⟩ => ?_
    have phase : Template.phaseOf (inPhase "Running" none pod) = some "Running" := phaseOf_inPhase own.1
    have judged : BuildTemplate.readiness (setMember "status" (phaseStatus "Running") object.document)
        (some (inPhase "Running" none pod)) = .running := by
      simp [BuildTemplate.readiness, phase]
    refine ⟨_, inPhase "Running" none pod, hreply,
      ⟨isObject_setMember hobject, targetOf_setStatus.trans htarget⟩,
      ⟨hasStatus_inPhase own.1, (labelOf_inPhase _).trans own.2⟩, fun reason => ⟨?_, ?_⟩, ?_⟩
    · exact readiness_build_none (phaseOf_setStatus hobject) (.inl rfl) reason
    · exact fun h => by cases judged.symm.trans h
    · rw [if_pos early]
      exact ⟨fun h => (by cases judged.symm.trans h), hv⟩
  · refine (effect_get_build_late hns label (Nat.not_lt.1 early) htarget there).mono
      fun reply v' ⟨hreply, hv⟩ => ?_
    have phase : Template.phaseOf (inPhase "Succeeded" none pod) = some "Succeeded" := phaseOf_inPhase own.1
    have judged : BuildTemplate.readiness (setMember "status" (phaseStatus "Complete") object.document)
        (some (inPhase "Succeeded" none pod)) = .ready := by
      simp [BuildTemplate.readiness, phase]
    refine ⟨_, inPhase "Succeeded" none pod, hreply,
      ⟨isObject_setMember hobject, targetOf_setStatus.trans htarget⟩,
      ⟨hasStatus_inPhase own.1, (labelOf_inPhase _).trans own.2⟩, fun reason => ⟨?_, ?_⟩, ?_⟩
    · exact readiness_build_none (phaseOf_setStatus hobject) (.inr rfl) reason
    · exact fun h => by cases judged.symm.trans h
    · rw [if_neg early]
      exact ⟨judged, hv⟩

omit hns interval in
theorem readiness_batch {document : Json} (h : document.isObject = true) (ended : Bool) :
    BatchTemplate.readiness (setMember "status" (batchStatus ended false).1 document) =
      if ended then .ready else .running := by
  have count (key : String) : Template.countAt (setMember "status" (batchStatus ended false).1 document)
      ["status", key] = (((batchStatus ended false).1.get? key).bind Json.nat?).getD 0 := by
    rw [Template.countAt, Json.path?_pair, get?_setMember h]
    rfl
  rw [BatchTemplate.readiness, count, count, count]
  cases ended <;> simp [batchStatus, Json.get?_mk, Dict.ofList, Json.nat?, Json.ofNat]

/-- A batch job is created, and succeeds. -/
theorem create_batch {t : BatchTemplate} (label : IsLabel t.template.name)
    (time : (looks - 1) * watch.interval < watch.timeout)
    (absent : v.objects .batchJob t.template.name = none) (podless : ∀ key, v.pods key = none)
    (hr : r.template = t.template) (hw : At ns looks v l w) :
    MeetsWith course.within (Resource.create ns true watch) r w
      (fun _ r w => r.template = t.template ∧ ∃ object pod, IsPodOf batchPodLabel t.template.name pod ∧
        At ns looks (v.working .batchJob t.template.name object (t.template.name ++ "-pod") pod)
          (l ++ [.batch]) w)
      fun _ _ _ => False := by
  have look (object : StoredObject) (pod : Json) (hobject : object.document.isObject = true)
      (own : IsPodOf batchPodLabel t.template.name pod) :
      Effect ns looks (.get (ResourceKind.batchJob.instancePath ns t.template.name))
        (v.working .batchJob t.template.name object (t.template.name ++ "-pod") pod)
        (Looked looks t.template batchPodLabel "-pod" v v (fun document => document.isObject = true) object) := by
    refine (effect_get_batch hns label).mono fun reply v' ⟨hreply, hv⟩ => ?_
    have judged := readiness_batch hobject (looks ≤ object.looks + 1 : Bool)
    have sound (reason : String) : BatchTemplate.readiness (setMember "status"
        (batchStatus (looks ≤ object.looks + 1 : Bool) false).1 object.document) ≠ .failed reason := by
      rw [judged]
      split <;> nofun
    refine ⟨_, inPhase (batchStatus (looks ≤ object.looks + 1 : Bool) false).2 none pod, hreply,
      isObject_setMember hobject, ⟨hasStatus_inPhase own.1, (labelOf_inPhase _).trans own.2⟩,
      fun reason => ⟨sound reason, sound reason⟩, ?_⟩
    by_cases early : object.looks + 1 < looks
    · rw [if_pos early]
      refine ⟨fun h => ?_, hv⟩
      rw [decide_eq_false (Nat.not_le.2 early)] at judged h
      cases judged.symm.trans h
    · rw [if_neg early]
      refine ⟨judged.trans ?_, hv⟩
      rw [decide_eq_true (Nat.not_lt.1 early)]
      rfl
  exact create_working hns (fun document => document.isObject = true) t.isNamed rfl rfl
    (by decide) (by decide) absent podless (isObject_initialDocument rfl) look interval time hr hw

end

end Simulation
end ImageryJobs
