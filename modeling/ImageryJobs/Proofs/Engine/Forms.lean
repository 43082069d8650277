import ImageryJobs.Engine.Catalog
import ImageryJobs.Engine.Record
import ImageryJobs.Graph.Registry
import ImageryJobs.Proofs.Cluster.Forms
import ImageryJobs.Proofs.Store.Rows

/-!
Everything that is written as a document is read back from it: manifests, the image catalog, the
declarations of a registry, tasks, and the records of jobs and tasks. The source of an image stands
among the members of its specification, so there it matters that no two of them have one name.
-/

namespace ImageryJobs

open Json DocumentType

attribute [local simp] Dict.get?_ofList_nil Dict.get?_ofList_cons Dict.get?_ofList_append get?_memberIf

/-! ### The image catalog -/

/-- The members beside one are those of the object without it. -/
theorem filter_membersToRaw (d : Members) (name : String) :
    (membersToRaw d.entries).filter (·.1 ≠ some name) = membersToRaw (d.erase name).entries := by
  rw [membersToRaw_eq_map, membersToRaw_eq_map, List.filter_map]
  simp [Dict.erase, Dict.filter, Function.comp_def]

theorem BuildSource.exists_text (x : BuildSource) :
    ∀ m ∈ (Dict.ofList x.members).entries, ∃ text, m.2 = .string text := by
  intro m hm
  have given : m ∈ x.members := Dict.mem_of_get?_ofList (Dict.get?_eq_some_iff.2 hm)
  have each : ∀ m ∈ x.members, ∃ text, m.2 = .string text := by
    rcases x with ⟨_, _, _ | _⟩ <;> simp [members, memberIf]
  exact each m given

/-- Members with texts are not nested. -/
theorem Json.depthIn_texts {members : List (String × Json)} (n : Nat)
    (h : ∀ m ∈ members, ∃ text, m.2 = .string text) : depthIn members ≤ n := by
  refine depthIn_le.2 fun m hm => ?_
  obtain ⟨text, heq⟩ := h m hm
  rw [heq]
  exact Nat.zero_le n

/-- Members with texts are read whatever they are called. -/
theorem Json.Schema.mapM_texts {members : List (String × Json)} (n : Nat)
    (h : ∀ m ∈ members, ∃ text, m.2 = .string text) :
    ((membersToRaw members).mapM fun m => do
      let key ← m.1
      let value ← any n m.2
      return (key, value)) = some members := by
  rw [mapM_entries_any]
  refine membersToJson?_toRaw members n (ascendingIn_iff.2 fun m hm => ?_) (depthIn_texts n h)
  obtain ⟨text, heq⟩ := h m hm
  rw [heq]
  trivial

/-- The source has no member of the name under which the resources stand. -/
theorem ImageSpec.erase_resources (x : ImageSpec) :
    (Dict.ofList (x.source.members ++ memberIf "resources" x.resources ComputeResources.toJson)).erase
      "resources" = Dict.ofList x.source.members := by
  refine Dict.ext_get? fun k => ?_
  by_cases hk : k = "resources" <;> simp [hk, BuildSource.members]

theorem ImageSpec.get?_resources (x : ImageSpec) :
    (Dict.ofList (x.source.members ++ memberIf "resources" x.resources ComputeResources.toJson)).get?
      "resources" = x.resources.map ComputeResources.toJson := by
  simp [BuildSource.members]

theorem ImageSpec.reads (x : ImageSpec) : Reads schema x.toJson x
  | n + 1, hn => by
      have shallow := depthIn_le.1 (Nat.le_of_succ_le_succ hn)
      have flat := depthIn_texts n x.source.exists_text
      have others := Schema.mapM_texts n x.source.exists_text
      -- The source is read from what is left once the resources are taken away.
      have source : BuildSource.schema (n + 1)
          (.object (membersToRaw (Dict.ofList x.source.members).entries)) = some x.source :=
        x.source.reads (n + 1) (Nat.succ_le_succ flat)
      rw [toJson, Json.mk, ofMembers, toRaw, schema]
      simp only [uniqueMember_toRaw, get?_resources, filter_membersToRaw, erase_resources, others,
        source]
      cases hr : x.resources with
      | none => exact congrArg (fun resources => some (ImageSpec.mk x.source resources)) hr.symm
      | some r =>
          have member : ("resources", r.toJson) ∈ (Dict.ofList (x.source.members ++
              memberIf "resources" x.resources ComputeResources.toJson)).entries := by
            rw [← Dict.get?_eq_some_iff, get?_resources, hr]
            rfl
          have resources : ComputeResources.schema.option n r.toJson.toRaw = some (some r) :=
            reads_some r.reads (r.reads.ne_null record_null) n (shallow _ member)
          rw [Option.bind_eq_bind, Option.bind_some, Option.map_some, Option.map_some, Option.getD_some]
          simp only [resources]
          exact congrArg (fun resources => some (ImageSpec.mk x.source resources)) hr.symm

theorem ImageCatalog.reads (x : ImageCatalog) : Reads schema x.toJson x := by
  refine reads_record fun f hf => ?_
  have defaultResources : f.withDefault "default_resources" ComputeResources.initial
      ComputeResources.schema = some x.defaultResources := hf.withDefault x.defaultResources.reads (by simp)
  have processes : f.withDefault "processes" ∅ (.dict ImageSpec.schema) = some x.processes :=
    hf.withDefault (reads_dict fun _ x _ => x.reads) (by simp)
  rw [defaultResources, processes]
  rfl

/-! ### Registries -/

theorem ProcessKind.reads (k : ProcessKind) : Reads schema (.string k.name) k :=
  reads_choice (by cases k <;> rfl)

theorem ArgumentType.reads (t : ArgumentType) : Reads schema (.string t.name) t :=
  reads_choice (by cases t <;> rfl)

theorem Parameter.reads (x : Parameter) : Reads schema x.toJson x := by
  refine reads_record fun f hf => ?_
  have type : f.required "type" ArgumentType.schema = some x.type :=
    hf.required x.type.reads (by simp)
  have required : f.withDefault "required" false .bool = some x.required :=
    hf.withDefault (reads_bool _) (by simp)
  have pattern : f.withDefault "pattern" none (.option .string) = some x.pattern :=
    hf.skippedText (by simp)
  have description : f.withDefault "description" none (.option .string) = some x.description :=
    hf.skippedText (by simp)
  rw [type, required, pattern, description]
  rfl

theorem ProcessSpec.reads (x : ProcessSpec) : Reads schema x.toJson x := by
  refine reads_record fun f hf => ?_
  have processId : f.required "process_id" .string = some x.processId := hf.text (by simp)
  have kind : f.required "type" ProcessKind.schema = some x.kind := hf.required x.kind.reads (by simp)
  have description : f.withDefault "description" "" .string = some x.description :=
    hf.withDefault (reads_string _) (by simp)
  have parameters : f.withDefault "parameters" ∅ (.dict Parameter.schema) = some x.parameters :=
    hf.withDefault (reads_dict fun _ x _ => x.reads) (by simp)
  rw [processId, kind, description, parameters]
  rfl

theorem ProductSpec.reads (x : ProductSpec) : Reads schema x.toJson x := by
  refine reads_record fun f hf => ?_
  have productId : f.required "product_id" .string = some x.productId := hf.text (by simp)
  have description : f.withDefault "description" "" .string = some x.description :=
    hf.withDefault (reads_string _) (by simp)
  rw [productId, description]
  rfl

theorem FilterMapping.reads (x : FilterMapping) : Reads schema x.toJson x := by
  intro n hn
  have extraction := Manifest.reads_texts x.extraction n hn
  exact congrArg (Option.map mk) extraction

/-! ### Tasks -/

/-- Sequence numbers are numbers of 32 bits, and the members of arguments are in order. -/
structure TaskSpec.Fits (x : TaskSpec) : Prop where
  seqNum : x.seqNum < seqLimit
  args {key : String} {j : Json} : x.args.get? key = some j → Ascending j
  dependsOn : ∀ n ∈ x.dependsOn, n < seqLimit

theorem TaskSpec.reads {x : TaskSpec} (fits : x.Fits) : Reads schema x.toJson x := by
  refine reads_record fun f hf => ?_
  have seqNum : f.required "seq_num" (.natBelow seqLimit) = some x.seqNum :=
    hf.required (reads_natBelow fits.seqNum) (by simp)
  have processId : f.required "process_id" .string = some x.processId := hf.text (by simp)
  have args : f.required "args" (.dict .any) = some x.args :=
    hf.required (reads_members fun _ _ => fits.args) (by simp)
  have dependsOn : f.withDefault "depends_on" [] (.list (.natBelow seqLimit)) = some x.dependsOn :=
    hf.withDefault (reads_list fun n hn => reads_natBelow (fits.dependsOn n hn)) (by simp)
  rw [seqNum, processId, args, dependsOn]
  rfl

theorem TaskSpec.yields : Yields schema Fits := yields_record fun f x read => by
  simp only [Option.bind_eq_bind, Option.bind_eq_some_iff, Option.pure_def, Option.some.injEq] at read
  obtain ⟨seqNum, hseq, processId, -, args, hargs, dependsOn, hdepends, rfl⟩ := read
  have below := f.required_yields (yields_natBelow _) hseq
  have ascending := f.required_yields (yields_dict yields_any) hargs
  have allBelow := f.withDefault_yields (yields_list (yields_natBelow _)) (by simp) hdepends
  exact ⟨below, fun hj => ascending _ _ hj, allBelow⟩

/-! ### Records -/

theorem JobStatus.reads (s : JobStatus) : Reads schema s.toJson s :=
  reads_choice (ofName?_eq_some.2 rfl)

theorem TaskStatus.reads (s : TaskStatus) : Reads schema s.toJson s :=
  reads_choice (ofName?_eq_some.2 rfl)

theorem Timestamp.reads {t : Timestamp} (h : read? t.text = some t) :
    Reads schema (.string t.text) t := by
  intro n _
  change (some t.text).bind read? = some t
  rw [Option.bind_some, h]

/-- A value that may be missing is in order, and is not null, which stands for a missing one. -/
def Optional (o : Option Json) : Prop := ∀ j, o = some j → Ascending j ∧ j ≠ .null

theorem reads_optional {o : Option Json} (h : Optional o) :
    Reads (.option .any) (.ofOption o id) o :=
  reads_option fun j hj => ⟨reads_any (h j hj).1, (h j hj).2⟩

theorem reads_optionalText (o : Option String) :
    Reads (.option .string) (.ofOption o .string) o :=
  reads_option fun text _ => ⟨reads_string text, (reads_string text).ne_null fun _ => rfl⟩

/-- The process graph and the output are in order, and an output is not null. -/
structure Job.Fits (job : Job) : Prop where
  processGraph : Ascending job.processGraph
  output : Optional job.output

/-- A task is like one that was planned, and metrics are in order and not null. -/
structure Task.Fits (task : Task) : Prop where
  seqNum : task.seqNum < TaskSpec.seqLimit
  args {key : String} {j : Json} : task.args.get? key = some j → Ascending j
  dependsOn : ∀ n ∈ task.dependsOn, n < TaskSpec.seqLimit
  metrics : Optional task.metrics

namespace Dated

/-- The points in time of a record are read back from their texts. -/
structure Timed {α : Type} (d : Dated α) : Prop where
  createdAt : Timestamp.read? d.createdAt.text = some d.createdAt
  updatedAt : Timestamp.read? d.updatedAt.text = some d.updatedAt

theorem reads_job {d : Dated Job} (fits : d.value.Fits) (timed : d.Timed) :
    Reads jobSchema d.jobJson d := by
  refine reads_record fun f hf => ?_
  have id : f.required "id" .string = some d.value.id := hf.text (by simp)
  have userId : f.required "user_id" .string = some d.value.userId := hf.text (by simp)
  have processGraph : f.required "process_graph" .any = some d.value.processGraph :=
    hf.required (reads_any fits.processGraph) (by simp)
  have output : f.optional "output" .any = some d.value.output :=
    hf.optional (reads_optional fits.output) (by simp)
  have status : f.required "status" JobStatus.schema = some d.value.status :=
    hf.required d.value.status.reads (by simp)
  have error : f.optional "error" .string = some d.value.error :=
    hf.optional (reads_optionalText _) (by simp)
  have createdAt : f.required "created_at" Timestamp.schema = some d.createdAt :=
    hf.required (Timestamp.reads timed.createdAt) (by simp)
  have updatedAt : f.required "updated_at" Timestamp.schema = some d.updatedAt :=
    hf.required (Timestamp.reads timed.updatedAt) (by simp)
  rw [id, userId, processGraph, output, status, error, createdAt, updatedAt]
  rfl

theorem reads_task {d : Dated Task} (fits : d.value.Fits) (timed : d.Timed) :
    Reads taskSchema d.taskJson d := by
  refine reads_record fun f hf => ?_
  have id : f.required "id" .string = some d.value.id := hf.text (by simp)
  have jobId : f.required "job_id" .string = some d.value.jobId := hf.text (by simp)
  have processId : f.required "process_id" .string = some d.value.processId := hf.text (by simp)
  have seqNum : f.required "seq_num" (.natBelow TaskSpec.seqLimit) = some d.value.seqNum :=
    hf.required (reads_natBelow fits.seqNum) (by simp)
  have status : f.required "status" TaskStatus.schema = some d.value.status :=
    hf.required d.value.status.reads (by simp)
  have args : f.required "args" (.dict .any) = some d.value.args :=
    hf.required (reads_members fun _ _ => fits.args) (by simp)
  have dependsOn : f.required "depends_on" (.list (.natBelow TaskSpec.seqLimit)) =
      some d.value.dependsOn :=
    hf.required (reads_list fun n hn => reads_natBelow (fits.dependsOn n hn)) (by simp)
  have error : f.optional "error" .string = some d.value.error :=
    hf.optional (reads_optionalText _) (by simp)
  have logs : f.optional "logs" .string = some d.value.logs :=
    hf.optional (reads_optionalText _) (by simp)
  have metrics : f.optional "metrics" .any = some d.value.metrics :=
    hf.optional (reads_optional fits.metrics) (by simp)
  have createdAt : f.required "created_at" Timestamp.schema = some d.createdAt :=
    hf.required (Timestamp.reads timed.createdAt) (by simp)
  have updatedAt : f.required "updated_at" Timestamp.schema = some d.updatedAt :=
    hf.required (Timestamp.reads timed.updatedAt) (by simp)
  rw [id, jobId, processId, seqNum, status, args, dependsOn, error, logs, metrics, createdAt, updatedAt]
  rfl

theorem yields_job : Yields jobSchema fun d => d.value.Fits := yields_record fun f x read => by
  simp only [Option.bind_eq_bind, Option.bind_eq_some_iff, Option.pure_def, Option.some.injEq] at read
  obtain ⟨id, -, userId, -, processGraph, hgraph, output, houtput, status, -, error, -,
    createdAt, -, updatedAt, -, rfl⟩ := read
  have ascending := f.required_yields yields_any hgraph
  have solid := f.optional_yields yields_option_any (by simp) houtput
  exact ⟨ascending, solid⟩

theorem yields_task : Yields taskSchema fun d => d.value.Fits := yields_record fun f x read => by
  obtain ⟨id, -, read⟩ := Option.bind_eq_some_iff.1 read
  obtain ⟨jobId, -, read⟩ := Option.bind_eq_some_iff.1 read
  obtain ⟨processId, -, read⟩ := Option.bind_eq_some_iff.1 read
  obtain ⟨seqNum, hseq, read⟩ := Option.bind_eq_some_iff.1 read
  obtain ⟨status, -, read⟩ := Option.bind_eq_some_iff.1 read
  obtain ⟨args, hargs, read⟩ := Option.bind_eq_some_iff.1 read
  obtain ⟨dependsOn, hdepends, read⟩ := Option.bind_eq_some_iff.1 read
  obtain ⟨error, -, read⟩ := Option.bind_eq_some_iff.1 read
  obtain ⟨logs, -, read⟩ := Option.bind_eq_some_iff.1 read
  obtain ⟨metrics, hmetrics, read⟩ := Option.bind_eq_some_iff.1 read
  obtain ⟨createdAt, -, read⟩ := Option.bind_eq_some_iff.1 read
  obtain ⟨updatedAt, -, read⟩ := Option.bind_eq_some_iff.1 read
  cases read
  have below := f.required_yields (yields_natBelow _) hseq
  have ascending := f.required_yields (yields_dict yields_any) hargs
  have allBelow := f.required_yields (yields_list (yields_natBelow _)) hdepends
  have solid := f.optional_yields yields_option_any (by simp) hmetrics
  exact ⟨below, fun hj => ascending _ _ hj, allBelow, solid⟩

def jobDocument : DocumentType := ⟨Dated Job, jobSchema, jobJson, fun d => d.value.Fits, Timed⟩

def taskDocument : DocumentType := ⟨Dated Task, taskSchema, taskJson, fun d => d.value.Fits, Timed⟩

end Dated

/-! ### All documents -/

/-- The types of everything that is written as a document. -/
def documentTypes : List DocumentType :=
  Manifest.documentTypes ++
    [.plain ComputeResources.schema ComputeResources.toJson,
      .plain BuildSource.schema BuildSource.toJson, .plain ImageSpec.schema ImageSpec.toJson,
      .plain ImageCatalog.schema ImageCatalog.toJson,
      .plain ProcessKind.schema fun k => .string k.name,
      .plain ArgumentType.schema fun t => .string t.name,
      .plain Parameter.schema Parameter.toJson, .plain ProcessSpec.schema ProcessSpec.toJson,
      .plain ProductSpec.schema ProductSpec.toJson,
      .plain FilterMapping.schema FilterMapping.toJson,
      ⟨TaskSpec, TaskSpec.schema, TaskSpec.toJson, TaskSpec.Fits, fun _ => True⟩,
      .plain JobStatus.schema JobStatus.toJson, .plain TaskStatus.schema TaskStatus.toJson,
      Dated.jobDocument, Dated.taskDocument]

theorem lawful_documentTypes : ∀ t ∈ documentTypes, t.Lawful := by
  simp only [documentTypes, List.forall_mem_append, List.forall_mem_cons]
  exact ⟨Manifest.lawful_documentTypes, lawful_plain ComputeResources.reads,
    lawful_plain BuildSource.reads, lawful_plain ImageSpec.reads, lawful_plain ImageCatalog.reads,
    lawful_plain ProcessKind.reads, lawful_plain ArgumentType.reads, lawful_plain Parameter.reads,
    lawful_plain ProcessSpec.reads, lawful_plain ProductSpec.reads,
    lawful_plain FilterMapping.reads, ⟨fun fits _ => TaskSpec.reads fits, TaskSpec.yields⟩,
    lawful_plain JobStatus.reads, lawful_plain TaskStatus.reads,
    ⟨Dated.reads_job, Dated.yields_job⟩, ⟨Dated.reads_task, Dated.yields_task⟩,
    List.forall_mem_nil _⟩

/-- What is written is read back. So a document that was read once may be written and read again, and
nothing changes any more: defaults that it left out, members that were skipped unread, and fields given
as an array make no difference. -/
theorem documents_survive {t : DocumentType} (ht : t ∈ documentTypes) :
    (∀ x, t.Fits x → t.Timed x → Reads t.schema (t.write x) x) ∧
      ∀ n tree x, t.schema n tree = some x → t.Timed x → Reads t.schema (t.write x) x := by
  have lawful := lawful_documentTypes t ht
  exact ⟨fun _ => lawful.reads, fun n tree x read => lawful.reads (lawful.yields n tree x read)⟩

theorem documents_survive_sample :
    let job : Dated Job := ⟨⟨"j-1", "u-1", .object [("node", .array [])], some (.string "GTiff"),
      .queued, none⟩, ⟨1700000000, 250⟩, ⟨1700000100, 0⟩⟩
    let spec : ImageSpec := ⟨⟨"https://git.eoflow.local/ndvi.git", "master", none⟩, none⟩
    let tree : Raw := .object [(some "note", .null), (some "git_uri", .string (some spec.source.gitUri))]
    job.value.Fits ∧ job.Timed ∧ Reads Dated.jobSchema job.jobJson job ∧
      ImageSpec.schema 2 tree = some spec ∧ Reads ImageSpec.schema spec.toJson spec := by
  intro job spec tree
  have fits : job.value.Fits := by
    refine ⟨⟨List.pairwise_singleton _ _, trivial, trivial⟩, ?_⟩
    rintro _ ⟨⟩
    exact ⟨trivial, by simp⟩
  have timed : job.Timed := ⟨by decide +kernel, by decide +kernel⟩
  have read : ImageSpec.schema 2 tree = some spec := by decide +kernel
  have jobs : Dated.jobDocument ∈ documentTypes := by simp [documentTypes]
  have specs : DocumentType.plain ImageSpec.schema ImageSpec.toJson ∈ documentTypes := by
    simp [documentTypes]
  exact ⟨fits, timed, (documents_survive jobs).1 job fits timed, read,
    (documents_survive specs).2 2 tree spec read trivial⟩

end ImageryJobs
