import ImageryJobs.Cluster.Manifest.Batch
import ImageryJobs.Cluster.Manifest.Image
import ImageryJobs.Cluster.Manifest.Volume
import ImageryJobs.Cluster.Template.Batch
import ImageryJobs.Cluster.Template.Image
import ImageryJobs.Proofs.Json.Forms

/-!
Manifests are read back from their JSON forms: every member that a form leaves out is one that its
schema has a default for, and the default is the value that was left out.
-/

namespace ImageryJobs

open Json DocumentType

attribute [local simp] Dict.get?_ofList_nil Dict.get?_ofList_cons Dict.get?_ofList_append get?_memberIf

namespace Manifest

/-! ### Members that are left out -/

theorem get?_memberUnlessEmpty (key k : String) (d : Dict String String) :
    (Dict.ofList (memberUnlessEmpty key d)).get? k =
      if k = key then (if d.isEmpty then none else some (.ofDict d .string)) else none := by
  rw [memberUnlessEmpty]
  cases d.isEmpty <;> simp

theorem get?_listUnlessEmpty {α : Type} (key k : String) (xs : List α) (write : α → Json) :
    (Dict.ofList (listUnlessEmpty key xs write)).get? k =
      if k = key then (if xs.isEmpty then none else some (.ofList xs write)) else none := by
  rw [listUnlessEmpty]
  cases xs.isEmpty <;> simp

theorem get?_memberIfTrue (key k : String) (b : Bool) :
    (Dict.ofList (memberIfTrue key b)).get? k =
      if k = key then (if b = false then none else some (.bool b)) else none := by
  cases b <;> simp [memberIfTrue]

attribute [local simp] get?_memberUnlessEmpty get?_listUnlessEmpty get?_memberIfTrue

theorem reads_texts (d : Dict String String) : Reads (.dict .string) (.ofDict d .string) d :=
  reads_dict fun _ text _ => reads_string text

theorem eq_empty_of_isEmpty {d : Dict String String} (h : d.isEmpty = true) : d = ∅ :=
  Dict.ext_entries (List.isEmpty_iff.1 h)

/-! ### What manifests share -/

theorem ObjectMeta.reads (x : ObjectMeta) : Reads schema x.toJson x := by
  refine reads_record fun f hf => ?_
  have name : f.required "name" .string = some x.name := hf.text (by simp)
  have labels : f.withDefault "labels" ∅ (.dict .string) = some x.labels :=
    hf.skipped (reads_texts _) eq_empty_of_isEmpty (by simp)
  rw [name, labels]
  rfl

theorem ResourceRequirements.reads (x : ResourceRequirements) : Reads schema x.toJson x := by
  refine reads_record fun f hf => ?_
  have requests : f.withDefault "requests" ∅ (.dict .string) = some x.requests :=
    hf.skipped (reads_texts _) eq_empty_of_isEmpty (by simp)
  have limits : f.withDefault "limits" ∅ (.dict .string) = some x.limits :=
    hf.skipped (reads_texts _) eq_empty_of_isEmpty (by simp)
  rw [requests, limits]
  rfl

/-- An object is read back if what it has beside its metadata is. -/
theorem reads_object {α σ : Type} {key : String} {spec : Schema σ} {written : Json} {x : σ}
    {build : String → String → ObjectMeta → σ → α} {apiVersion kind : String} {metadata : ObjectMeta}
    (h : Reads spec written x) (hk : key ∉ ["apiVersion", "kind", "metadata"]) :
    Reads (.record ["apiVersion", "kind", "metadata", key] fun f => do
        return build (← f.required "apiVersion" .string) (← f.required "kind" .string)
          (← f.required "metadata" ObjectMeta.schema) (← f.required key spec))
      (.mk <| [("apiVersion", .string apiVersion)] ++ [("kind", .string kind)] ++
        [("metadata", metadata.toJson)] ++ [(key, written)])
      (build apiVersion kind metadata x) := by
  simp only [List.mem_cons, List.not_mem_nil, or_false, not_or, eq_comm (a := key)] at hk
  refine reads_record fun f hf => ?_
  have hversion : f.required "apiVersion" .string = some apiVersion := hf.text (by simp [hk])
  have hkind : f.required "kind" .string = some kind := hf.text (by simp [hk])
  have hmetadata : f.required "metadata" ObjectMeta.schema = some metadata :=
    hf.required (ObjectMeta.reads _) (by simp [hk])
  have hspec : f.required key spec = some x := hf.required h (by simp)
  rw [hversion, hkind, hmetadata, hspec]
  rfl

/-! ### Batch jobs -/

theorem VolumeMount.reads (x : VolumeMount) : Reads schema x.toJson x := by
  refine reads_record fun f hf => ?_
  have name : f.required "name" .string = some x.name := hf.text (by simp)
  have mountPath : f.required "mountPath" .string = some x.mountPath := hf.text (by simp)
  have readOnly : f.withDefault "readOnly" false .bool = some x.readOnly :=
    hf.skipped (reads_bool _) id (by simp)
  have subPath : f.withDefault "subPath" none (.option .string) = some x.subPath :=
    hf.skippedText (by simp)
  rw [name, mountPath, readOnly, subPath]
  rfl

theorem ClaimSource.reads (x : ClaimSource) : Reads schema x.toJson x := by
  refine reads_record fun f hf => ?_
  have claimName : f.required "claimName" .string = some x.claimName := hf.text (by simp)
  have readOnly : f.withDefault "readOnly" false .bool = some x.readOnly :=
    hf.skipped (reads_bool _) id (by simp)
  rw [claimName, readOnly]
  rfl

theorem ConfigMapSource.reads (x : ConfigMapSource) : Reads schema x.toJson x := by
  refine reads_record fun f hf => ?_
  have name : f.required "name" .string = some x.name := hf.text (by simp)
  rw [name]
  rfl

theorem PodVolume.reads (x : PodVolume) : Reads schema x.toJson x := by
  refine reads_record fun f hf => ?_
  have name : f.required "name" .string = some x.name := hf.text (by simp)
  have claim : f.withDefault "persistentVolumeClaim" none (.option ClaimSource.schema) = some x.claim :=
    hf.skippedNone (fun x _ => x.reads) record_null (by simp)
  have configMap : f.withDefault "configMap" none (.option ConfigMapSource.schema) = some x.configMap :=
    hf.skippedNone (fun x _ => x.reads) record_null (by simp)
  rw [name, claim, configMap]
  rfl

theorem Container.reads (x : Container) : Reads schema x.toJson x := by
  refine reads_record fun f hf => ?_
  have name : f.required "name" .string = some x.name := hf.text (by simp)
  have image : f.required "image" .string = some x.image := hf.text (by simp)
  have volumeMounts : f.withDefault "volumeMounts" [] (.list VolumeMount.schema) = some x.volumeMounts :=
    hf.skipped (reads_list fun x _ => x.reads) List.isEmpty_iff.1 (by simp)
  have resources : f.required "resources" ResourceRequirements.schema = some x.resources :=
    hf.required x.resources.reads (by simp)
  rw [name, image, volumeMounts, resources]
  rfl

theorem PodSpec.reads (x : PodSpec) : Reads schema x.toJson x := by
  refine reads_record fun f hf => ?_
  have containers : f.required "containers" (.list Container.schema) = some x.containers :=
    hf.required (reads_list fun x _ => x.reads) (by simp)
  have volumes : f.withDefault "volumes" [] (.list PodVolume.schema) = some x.volumes :=
    hf.skipped (reads_list fun x _ => x.reads) List.isEmpty_iff.1 (by simp)
  have restartPolicy : f.required "restartPolicy" .string = some x.restartPolicy :=
    hf.text (by simp)
  rw [containers, volumes, restartPolicy]
  rfl

theorem PodTemplate.reads (x : PodTemplate) : Reads schema x.toJson x := by
  refine reads_record fun f hf => ?_
  have metadata : f.withDefault "metadata" none (.option ObjectMeta.schema) = some x.metadata :=
    hf.skippedNone (fun x _ => x.reads) record_null (by simp)
  have spec : f.required "spec" PodSpec.schema = some x.spec := hf.required x.spec.reads (by simp)
  rw [metadata, spec]
  rfl

/-- The limit is a number of 32 bits. -/
def BatchJobSpec.Fits (x : BatchJobSpec) : Prop :=
  ∀ limit, x.backoffLimit = some limit → limit < 4294967296

theorem BatchJobSpec.reads {x : BatchJobSpec} (fits : x.Fits) : Reads schema x.toJson x := by
  refine reads_record fun f hf => ?_
  have backoffLimit : f.withDefault "backoffLimit" none (.option (.natBelow 4294967296)) = some x.backoffLimit :=
    hf.skippedNone (fun limit hl => reads_natBelow (fits limit hl)) (fun _ => rfl) (by simp)
  have template : f.required "template" PodTemplate.schema = some x.template :=
    hf.required x.template.reads (by simp)
  rw [backoffLimit, template]
  rfl

theorem BatchJobSpec.yields : Yields schema Fits := yields_record fun f x read => by
  simp only [Option.bind_eq_bind, Option.bind_eq_some_iff, Option.pure_def, Option.some.injEq] at read
  obtain ⟨backoffLimit, hlimit, template, -, rfl⟩ := read
  have below := f.withDefault_yields (yields_option (yields_natBelow _)) (by simp) hlimit
  exact below

theorem BatchJob.reads {x : BatchJob} (fits : x.spec.Fits) : Reads schema x.toJson x :=
  reads_object (BatchJobSpec.reads fits) (by decide)

theorem BatchJob.yields : Yields schema fun x => x.spec.Fits := yields_record fun f x read => by
  simp only [Option.bind_eq_bind, Option.bind_eq_some_iff, Option.pure_def, Option.some.injEq] at read
  obtain ⟨apiVersion, -, kind, -, metadata, -, spec, hspec, rfl⟩ := read
  exact f.required_yields BatchJobSpec.yields hspec

/-! ### Images -/

theorem TagReference.reads (x : TagReference) : Reads schema x.toJson x := by
  refine reads_record fun f hf => ?_
  have name : f.required "name" .string = some x.name := hf.text (by simp)
  rw [name]
  rfl

theorem ImageStreamSpec.reads (x : ImageStreamSpec) : Reads schema x.toJson x := by
  refine reads_record fun f hf => ?_
  have tags : f.required "tags" (.list TagReference.schema) = some x.tags :=
    hf.required (reads_list fun x _ => x.reads) (by simp)
  rw [tags]
  rfl

theorem ImageStream.reads (x : ImageStream) : Reads schema x.toJson x :=
  reads_object x.spec.reads (by decide)

theorem GitSource.reads (x : GitSource) : Reads schema x.toJson x := by
  refine reads_record fun f hf => ?_
  have uri : f.required "uri" .string = some x.uri := hf.text (by simp)
  have gitRef : f.required "ref" .string = some x.gitRef := hf.text (by simp)
  rw [uri, gitRef]
  rfl

theorem BuildInput.reads (x : BuildInput) : Reads schema x.toJson x := by
  refine reads_record fun f hf => ?_
  have type : f.required "type" .string = some x.type := hf.text (by simp)
  have git : f.required "git" GitSource.schema = some x.git := hf.required x.git.reads (by simp)
  have contextDir : f.withDefault "contextDir" none (.option .string) = some x.contextDir :=
    hf.skippedText (by simp)
  rw [type, git, contextDir]
  rfl

theorem DockerStrategy.reads (x : DockerStrategy) : Reads schema x.toJson x := by
  refine reads_record fun f hf => ?_
  have dockerfilePath : f.required "dockerfilePath" .string = some x.dockerfilePath :=
    hf.text (by simp)
  rw [dockerfilePath]
  rfl

theorem BuildStrategy.reads (x : BuildStrategy) : Reads schema x.toJson x := by
  refine reads_record fun f hf => ?_
  have type : f.required "type" .string = some x.type := hf.text (by simp)
  have dockerStrategy : f.required "dockerStrategy" DockerStrategy.schema = some x.dockerStrategy :=
    hf.required x.dockerStrategy.reads (by simp)
  rw [type, dockerStrategy]
  rfl

theorem ObjectReference.reads (x : ObjectReference) : Reads schema x.toJson x := by
  refine reads_record fun f hf => ?_
  have kind : f.required "kind" .string = some x.kind := hf.text (by simp)
  have name : f.required "name" .string = some x.name := hf.text (by simp)
  rw [kind, name]
  rfl

theorem BuildOutput.reads (x : BuildOutput) : Reads schema x.toJson x := by
  refine reads_record fun f hf => ?_
  have target : f.required "to" ObjectReference.schema = some x.target :=
    hf.required x.target.reads (by simp)
  rw [target]
  rfl

theorem BuildSpec.reads (x : BuildSpec) : Reads schema x.toJson x := by
  refine reads_record fun f hf => ?_
  have source : f.required "source" BuildInput.schema = some x.source :=
    hf.required x.source.reads (by simp)
  have strategy : f.required "strategy" BuildStrategy.schema = some x.strategy :=
    hf.required x.strategy.reads (by simp)
  have output : f.required "output" BuildOutput.schema = some x.output :=
    hf.required x.output.reads (by simp)
  rw [source, strategy, output]
  rfl

theorem Build.reads (x : Build) : Reads schema x.toJson x := reads_object x.spec.reads (by decide)

/-! ### Volume claims and config maps -/

theorem VolumeClaimSpec.reads (x : VolumeClaimSpec) : Reads schema x.toJson x := by
  refine reads_record fun f hf => ?_
  have storageClassName : f.withDefault "storageClassName" none (.option .string) = some x.storageClassName :=
    hf.skippedText (by simp)
  have accessModes : f.required "accessModes" (.list .string) = some x.accessModes :=
    hf.required (reads_list fun _ _ => reads_string _) (by simp)
  have resources : f.required "resources" ResourceRequirements.schema = some x.resources :=
    hf.required x.resources.reads (by simp)
  rw [storageClassName, accessModes, resources]
  rfl

theorem VolumeClaim.reads (x : VolumeClaim) : Reads schema x.toJson x :=
  reads_object x.spec.reads (by decide)

theorem ConfigMap.reads (x : ConfigMap) : Reads schema x.toJson x :=
  reads_object (reads_texts _) (by decide)

/-! ### All manifests -/

/-- The types of manifests and of their parts. -/
def documentTypes : List DocumentType :=
  [.plain ObjectMeta.schema ObjectMeta.toJson,
    .plain ResourceRequirements.schema ResourceRequirements.toJson,
    .plain VolumeMount.schema VolumeMount.toJson, .plain ClaimSource.schema ClaimSource.toJson,
    .plain ConfigMapSource.schema ConfigMapSource.toJson, .plain PodVolume.schema PodVolume.toJson,
    .plain Container.schema Container.toJson, .plain PodSpec.schema PodSpec.toJson,
    .plain PodTemplate.schema PodTemplate.toJson,
    ⟨BatchJobSpec, BatchJobSpec.schema, BatchJobSpec.toJson, BatchJobSpec.Fits, fun _ => True⟩,
    ⟨BatchJob, BatchJob.schema, BatchJob.toJson, fun x => x.spec.Fits, fun _ => True⟩,
    .plain TagReference.schema TagReference.toJson,
    .plain ImageStreamSpec.schema ImageStreamSpec.toJson,
    .plain ImageStream.schema ImageStream.toJson, .plain GitSource.schema GitSource.toJson,
    .plain BuildInput.schema BuildInput.toJson, .plain DockerStrategy.schema DockerStrategy.toJson,
    .plain BuildStrategy.schema BuildStrategy.toJson,
    .plain ObjectReference.schema ObjectReference.toJson,
    .plain BuildOutput.schema BuildOutput.toJson, .plain BuildSpec.schema BuildSpec.toJson,
    .plain Build.schema Build.toJson, .plain VolumeClaimSpec.schema VolumeClaimSpec.toJson,
    .plain VolumeClaim.schema VolumeClaim.toJson, .plain ConfigMap.schema ConfigMap.toJson]

theorem lawful_documentTypes : ∀ t ∈ documentTypes, t.Lawful := by
  simp only [documentTypes, List.forall_mem_cons]
  exact ⟨lawful_plain ObjectMeta.reads, lawful_plain ResourceRequirements.reads,
    lawful_plain VolumeMount.reads, lawful_plain ClaimSource.reads,
    lawful_plain ConfigMapSource.reads, lawful_plain PodVolume.reads, lawful_plain Container.reads,
    lawful_plain PodSpec.reads, lawful_plain PodTemplate.reads,
    ⟨fun fits _ => BatchJobSpec.reads fits, BatchJobSpec.yields⟩,
    ⟨fun fits _ => BatchJob.reads fits, BatchJob.yields⟩, lawful_plain TagReference.reads,
    lawful_plain ImageStreamSpec.reads, lawful_plain ImageStream.reads,
    lawful_plain GitSource.reads, lawful_plain BuildInput.reads, lawful_plain DockerStrategy.reads,
    lawful_plain BuildStrategy.reads, lawful_plain ObjectReference.reads,
    lawful_plain BuildOutput.reads, lawful_plain BuildSpec.reads, lawful_plain Build.reads,
    lawful_plain VolumeClaimSpec.reads, lawful_plain VolumeClaim.reads,
    lawful_plain ConfigMap.reads, List.forall_mem_nil _⟩

end Manifest

/-! ### Resources and sources of images -/

theorem ComputeResources.reads (x : ComputeResources) : Reads schema x.toJson x := by
  refine reads_record fun f hf => ?_
  have cpuRequest : f.required "cpu_request" .string = some x.cpuRequest := hf.text (by simp)
  have cpuLimit : f.required "cpu_limit" .string = some x.cpuLimit := hf.text (by simp)
  have memoryRequest : f.required "memory_request" .string = some x.memoryRequest :=
    hf.text (by simp)
  have memoryLimit : f.required "memory_limit" .string = some x.memoryLimit := hf.text (by simp)
  rw [cpuRequest, cpuLimit, memoryRequest, memoryLimit]
  rfl

attribute [local simp] BuildSource.members

theorem BuildSource.reads (x : BuildSource) : Reads schema x.toJson x := by
  refine reads_record fun f hf => ?_
  have gitUri : f.required "git_uri" .string = some x.gitUri := hf.text (by simp)
  have gitRef : f.withDefault "git_ref" defaultRef .string = some x.gitRef :=
    hf.withDefault (reads_string _) (by simp)
  have contextDir : f.withDefault "context_dir" none (.option .string) = some x.contextDir :=
    hf.skippedText (by simp)
  rw [gitUri, gitRef, contextDir]
  rfl

end ImageryJobs
