import ImageryJobs.Engine.Engine
import ImageryJobs.Proofs.Cluster.Images

/-!
The stages of a task and what each of them sends: its output volume, its config map, the image of
its process, its batch job. Every request of a stage concerns the objects of that task alone, and
builds and batch jobs that were created are deleted within their stage.
-/

namespace ImageryJobs

namespace EngineScript

instance (op : EngineOp) : Nonempty (engineInterface.Answer op) :=
  match op with
  | .cluster (.send _) => ⟨(.ok .empty : Reply)⟩
  | .cluster (.pause _) => ⟨false⟩
  | .report _ => ⟨.ok ()⟩

def exchange? : Event engineInterface → Option Exchange
  | ⟨.cluster (.send request), reply⟩ => some ⟨request, reply⟩
  | ⟨.cluster (.pause _), _⟩ | ⟨.report _, _⟩ => none

/-- What a run sent, in order. -/
def traffic (log : List (Event engineInterface)) : List Exchange := log.filterMap exchange?

@[simp] theorem traffic_nil : traffic [] = [] := rfl

@[simp] theorem traffic_append (log log' : List (Event engineInterface)) :
    traffic (log ++ log') = traffic log ++ traffic log' := List.filterMap_append

def ofClusterEvent (e : Event clusterInterface) : Event engineInterface := ⟨.cluster e.op, e.answer⟩

@[simp] theorem traffic_map_ofClusterEvent (log : List (Event clusterInterface)) :
    traffic (log.map ofClusterEvent) = ClusterScript.traffic log := by
  rw [traffic, ClusterScript.traffic, List.filterMap_map]
  congr 1
  funext ⟨op, answer⟩
  cases op <;> rfl

variable {α : Type}

theorem ran_ofCluster {s : ClusterScript α} {log : List (Event engineInterface)} {value : α} :
    (ofCluster s).Ran log value ↔
      ∃ inner, s.Ran inner value ∧ log = inner.map ofClusterEvent := by
  constructor
  · intro h
    induction s generalizing log with
    | done first =>
        obtain ⟨rfl, rfl⟩ := Script.ran_pure.1 h
        exact ⟨[], .stop _, rfl⟩
    | ask op next ih =>
        obtain ⟨answer, rest, rfl, hr⟩ := Script.ran_ask.1 h
        obtain ⟨inner, hi, rfl⟩ := ih answer hr
        exact ⟨⟨op, answer⟩ :: inner, .answered hi, rfl⟩
  · intro h
    obtain ⟨inner, h, rfl⟩ := h
    induction s generalizing inner with
    | done first =>
        obtain ⟨rfl, rfl⟩ := Script.ran_done.1 h
        exact .stop _
    | ask op next ih =>
        obtain ⟨answer, rest, rfl, hr⟩ := Script.ran_ask.1 h
        exact .answered (ih answer rest hr)

theorem ran_manage {ε : Type} {work : Managing ε α} {r r' : Resource}
    {log : List (Event engineInterface)} {result : Except ε α}
    (h : (manage work r).Ran log (result, r')) :
    ∃ inner, RanWith work r inner result r' ∧ traffic log = ClusterScript.traffic inner := by
  obtain ⟨inner, hi, rfl⟩ := ran_ofCluster.1 h
  exact ⟨inner, hi, traffic_map_ofClusterEvent inner⟩

end EngineScript

open EngineScript

namespace Engine

variable {e : Engine} {jobId : String} {task : Task}

/-! ### The templates of a task -/

def volumeOf (e : Engine) (jobId : String) (task : Task) : Template :=
  (VolumeTemplate.forTask jobId task.id e.config.cluster).template

def configOf (jobId : String) (task : Task) (inputs : List String) : Template :=
  (ConfigTemplate.forTask jobId task.id task.args inputs).template

def streamOf (task : Task) : Template := (ImageStreamTemplate.forProcess task.processId).template

def buildOf (jobId : String) (task : Task) (source : BuildSource) : Template :=
  (BuildTemplate.forTask jobId task.id task.processId (.forProcess task.processId) source).template

def batchOf (e : Engine) (jobId : String) (task : Task) (image : String) (mounts : List Mount) :
    Template :=
  (BatchTemplate.forTask jobId task.id task.processId image mounts
    (e.catalog.resourcesFor task.processId)).template

/-! ### Deleting -/

theorem ran_discard {r : Resource} {t : Template} (ht : r.template = t)
    {log : List (Event engineInterface)} (h : (e.discard r).Ran log ()) :
    (∀ x ∈ traffic log, Resource.Clears e.ns t.kind t.name x.request) ∧
      ∃ x ∈ traffic log, x.request.Deletes (t.kind.instancePath e.ns t.name) := by
  obtain ⟨log₁, ⟨result, r'⟩, log₂, rfl, h₁, h₂⟩ := Script.ran_bind.1 h
  obtain ⟨rfl, -⟩ := Script.ran_pure.1 h₂
  obtain ⟨inner, hi, hl⟩ := ran_manage h₁
  rw [List.append_nil, hl]
  exact ⟨(Resource.keeps_delete r ht _ _ _ hi).2, Resource.delete_deletes ht hi⟩

theorem ran_discardAll {volumes : List (HeldVolume Resource)}
    {log : List (Event engineInterface)}
    (h : (volumes.forM fun v => e.discard v.resource : EngineScript Unit).Ran log ()) :
    (∀ x ∈ traffic log, ∃ v ∈ volumes,
        Resource.Clears e.ns v.resource.kind v.resource.name x.request) ∧
      ∀ v ∈ volumes, ∃ x ∈ traffic log, x.request.Deletes (v.resource.path e.ns) := by
  induction volumes generalizing log with
  | nil =>
      obtain ⟨rfl, -⟩ := Script.ran_pure.1 h
      simp
  | cons v volumes ih =>
      obtain ⟨log₁, _, log₂, rfl, h₁, h₂⟩ := Script.ran_bind.1 h
      obtain ⟨hc₁, hd₁⟩ := ran_discard rfl h₁
      obtain ⟨hc₂, hd₂⟩ := ih h₂
      simp only [traffic_append, List.mem_append, List.mem_cons]
      constructor
      · intro x hx
        obtain hx | hx := hx
        · exact ⟨v, .inl rfl, hc₁ x hx⟩
        · obtain ⟨v', hv', hc⟩ := hc₂ x hx
          exact ⟨v', .inr hv', hc⟩
      · intro v' hv'
        obtain rfl | hv' := hv'
        · obtain ⟨x, hx, hd⟩ := hd₁
          exact ⟨x, .inl hx, hd⟩
        · obtain ⟨x, hx, hd⟩ := hd₂ v' hv'
          exact ⟨x, .inr hx, hd⟩

/-! ### The image -/

theorem ran_buildImage {log : List (Event engineInterface)} {result : Except EngineError BuiltImage}
    (h : (e.buildImage jobId task).run.Ran log result) :
    (∀ x ∈ traffic log, (∃ stream, Resource.Touches e.ns .imageStream stream x.request) ∨
        Resource.Touches e.ns .build (objectName .build jobId task.id) x.request) ∧
      Resource.Settled e.ns .build (objectName .build jobId task.id) (traffic log) := by
  unfold buildImage at h
  cases hs : e.catalog.get? task.processId with
  | none =>
      rw [hs] at h
      obtain ⟨rfl, -⟩ := Script.ran_pure.1 h
      exact ⟨List.forall_mem_nil _, followedBy_of_forall_not (List.forall_mem_nil _)⟩
  | some spec =>
      rw [hs] at h
      obtain ⟨inner, hr, rfl⟩ := ran_ofCluster.1 h
      rw [traffic_map_ofClusterEvent]
      obtain ⟨log₁, ⟨built, b⟩, log₂, rfl, h₁, h₂⟩ := Script.ran_bind.1 hr
      have start : ImageBuild.HasTemplates (ImageStreamTemplate.forProcess task.processId).template
          (BuildTemplate.forTask jobId task.id task.processId
            (ImageStreamTemplate.forProcess task.processId) spec.source).template
          (.ofTemplates (.forProcess task.processId) (.forTask jobId task.id task.processId
            (.forProcess task.processId) spec.source)) := ⟨rfl, rfl⟩
      obtain ⟨hb, hx⟩ := ImageBuild.keeps_run rfl _ start _ _ _ h₁
      have touches : ∀ x ∈ ClusterScript.traffic log₁,
          (∃ stream, Resource.Touches e.ns .imageStream stream x.request) ∨
            Resource.Touches e.ns .build (objectName .build jobId task.id) x.request := by
        intro x hm
        obtain hp | hm := hx x hm
        · exact .inl ⟨_, .inl ⟨_, hp, ImageStreamTemplate.isNamed _⟩⟩
        · exact .inr (hm.touches (BuildTemplate.isNamed _))
      cases built with
      | ok built =>
          obtain ⟨rfl, -⟩ := Script.ran_pure.1 h₂
          have settled := ImageBuild.run_settled rfl (ImageStreamTemplate.isNamed _)
            (fun h => ResourceKind.noConfusion h) start h₁
          rw [List.append_nil]
          exact ⟨touches, settled⟩
      | error cause =>
          obtain ⟨log₃, ⟨text, b₁⟩, log₄, rfl, h₃, h₄⟩ := Script.ran_bind.1 h₂
          obtain ⟨log₅, ⟨cleaned, b₂⟩, log₆, rfl, h₅, h₆⟩ := Script.ran_bind.1 h₄
          obtain ⟨rfl, -⟩ := Script.ran_pure.1 h₆
          obtain ⟨hb₁, reads⟩ := ImageBuild.ran_logs hb h₃
          rw [List.append_nil]
          constructor
          · intro x hm
            simp only [ClusterScript.traffic_append, List.mem_append] at hm
            obtain hm | hm | hm := hm
            · exact touches x hm
            · exact .inr (.inr (.inl (reads x hm)))
            · exact .inr (.inr ((ImageBuild.keeps_cleanup _ hb₁ _ _ _ h₅).2 x hm))
          · have settled := ImageBuild.settled_cleanup hb₁ (log₁ ++ log₃) h₅
            rw [← List.append_assoc]
            exact settled

/-! ### The output volume -/

/-- A look at a task's output claim shows that it is bound. -/
def ShowsBound (e : Engine) (jobId : String) (task : Task) : Exchange → Prop :=
  Exchange.Shows (ResourceKind.volume.instancePath e.ns (objectName .volume jobId task.id))
    fun claim => Template.phaseOf claim = some "Bound"

theorem ready_volume {claim : Json} (h : VolumeTemplate.readiness claim = .ready) :
    Template.phaseOf claim = some "Bound" := by
  unfold VolumeTemplate.readiness at h
  split at h
  · assumption
  · cases h
  · cases h

/-! ### The batch job -/

/-- A look at a task's batch job shows that it succeeded. -/
def ShowsSucceeded (e : Engine) (jobId : String) (task : Task) : Exchange → Prop :=
  Exchange.Shows (ResourceKind.batchJob.instancePath e.ns (objectName .batchJob jobId task.id))
    fun job => 0 < Template.countAt job ["status", "succeeded"]

theorem ready_batch {job : Json} (h : BatchTemplate.readiness job = .ready) :
    0 < Template.countAt job ["status", "succeeded"] := by
  unfold BatchTemplate.readiness at h
  split at h
  · assumption
  · split at h
    · cases h
    · split at h <;> cases h

theorem sends_metrics (batch : Resource) : ClusterScript.Sends Request.Reads (e.metrics batch) := by
  unfold metrics
  cases batch.pod with
  | none => exact ClusterScript.sends_pure _
  | some pod =>
      refine ClusterScript.sends_bind (Resource.sends_metrics _ _) fun found => ?_
      cases found <;> exact ClusterScript.sends_pure _

/-- The document of a template was sent, and nothing but what brings its object up or takes it away. -/
def Provides (e : Engine) (t : Template) (l : List Exchange) : Prop :=
  (∀ x ∈ l, Resource.Manages e.ns t x.request) ∧
    ∃ x ∈ l, x.request = .post (t.kind.collectionPath e.ns) t.document

/-- A task's batch job is created, deleted after that, and if all went well it was seen to have
succeeded. -/
theorem ran_deploy {image : String} {config : Resource} {output : HeldVolume Resource}
    {inputs : List (HeldVolume Resource)} {log : List (Event engineInterface)}
    {result : Except EngineError (Option String × Option Json)}
    (h : (e.deploy jobId task image config output inputs).run.Ran log result) :
    e.Provides (e.batchOf jobId task image (e.mounts jobId config output inputs)) (traffic log) ∧
      Resource.Settled e.ns .batchJob (objectName .batchJob jobId task.id) (traffic log) ∧
      ∀ value, result = .ok value →
        Since (fun x => ¬ x.request.Posts (ResourceKind.batchJob.collectionPath e.ns)
          (objectName .batchJob jobId task.id)) (e.ShowsSucceeded jobId task) (traffic log) := by
  obtain ⟨inner, hr, rfl⟩ := ran_ofCluster.1 h
  rw [traffic_map_ofClusterEvent]
  obtain ⟨log₁, ⟨created, batch⟩, log₂, rfl, h₁, h₂⟩ := Script.ran_bind.1 hr
  obtain ⟨log₃, ⟨text, batch₁⟩, log₄, rfl, h₃, h₄⟩ := Script.ran_bind.1 h₂
  -- Both ways on end in the deletion, after looks at most.
  obtain ⟨log₅, log₆, deleted, batch₂, rfl, looks, h₆, hok⟩ :
      ∃ log₅ log₆ deleted batch₂, log₄ = log₅ ++ log₆ ∧
        (∀ x ∈ ClusterScript.traffic log₅, x.request.Reads) ∧
        RanWith (Resource.delete e.ns) batch₁ log₆ deleted batch₂ ∧
        ∀ value, result = .ok value → created = .ok () := by
    cases created with
    | ok _ =>
        obtain ⟨log₅, found, log₆, rfl, h₅, h₆⟩ := Script.ran_bind.1 h₄
        obtain ⟨_, _, log₇, rfl, hp, h₇⟩ := Script.ran_bind.1 h₆
        obtain ⟨rfl, rfl⟩ := Script.ran_pure.1 hp
        obtain ⟨log₈, ⟨deleted, batch₂⟩, log₉, rfl, h₈, h₉⟩ := Script.ran_bind.1 h₇
        obtain ⟨rfl, -⟩ := Script.ran_pure.1 h₉
        exact ⟨log₅, log₈, deleted, batch₂, by simp, sends_metrics batch₁ _ _ h₅, h₈,
          fun _ _ => rfl⟩
    | error cause =>
        obtain ⟨_, _, log₇, rfl, hp, h₇⟩ := Script.ran_bind.1 h₄
        obtain ⟨rfl, rfl⟩ := Script.ran_pure.1 hp
        obtain ⟨log₈, ⟨deleted, batch₂⟩, log₉, rfl, h₈, h₉⟩ := Script.ran_bind.1 h₇
        obtain ⟨rfl, rfl⟩ := Script.ran_pure.1 h₉
        refine ⟨[], log₈, deleted, batch₂, by simp, List.forall_mem_nil _, h₈, ?_⟩
        intro value hv
        cases hv
  obtain ⟨ht, manages⟩ := Resource.keeps_create true _ rfl _ _ _ h₁
  obtain ⟨ht₁, reads⟩ := Resource.keeps_logs batch ht _ _ _ h₃
  have clears := (Resource.keeps_delete batch₁ ht₁ _ _ _ h₆).2
  have rest : ∀ x ∈ ClusterScript.traffic (log₃ ++ (log₅ ++ log₆)),
      Resource.Clears e.ns .batchJob (objectName .batchJob jobId task.id) x.request := by
    intro x hx
    simp only [ClusterScript.traffic_append, List.mem_append] at hx
    obtain hx | hx | hx := hx
    · exact .inl (reads x hx)
    · exact .inl (looks x hx)
    · exact clears x hx
  rw [ClusterScript.traffic_append]
  refine ⟨⟨?_, ?_⟩, ?_, ?_⟩
  · intro x hx
    obtain hx | hx := List.mem_append.1 hx
    · exact manages x hx
    · exact .inr (rest x hx)
  · obtain ⟨x, hx, posted⟩ := Resource.create_posts h₁
    exact ⟨x, List.mem_append_left _ hx, posted⟩
  · refine FollowedBy.append_of_exists (Resource.settled_of_clears rest) ?_
    obtain ⟨x, hx, hd⟩ := Resource.delete_deletes ht₁ h₆
    refine ⟨x, ?_, hd⟩
    simp [hx]
  · intro value hv
    rw [hok value hv] at h₁
    have seen := Resource.create_showsReady h₁
    refine Since.append (seen.mono ?_ ?_) ?_
    · exact fun x hx => hx.not_posts _ _
    · exact fun x hx => hx.mono fun job ⟨_, h⟩ => ready_batch h
    · exact fun x hx => (rest x hx).not_posts _

/-! ### All stages -/

/-- The mounts of a task's container with these inputs. -/
def mountsOf (e : Engine) (jobId : String) (task : Task) (inputs : List (HeldVolume Resource)) :
    List Mount :=
  e.mounts jobId (.ofTemplate (configOf jobId task (inputs.map (·.mountPath))))
    ⟨task.seqNum, dataPath jobId task.id, .ofTemplate (e.volumeOf jobId task)⟩ inputs

/-- What carrying a task out sent: about its volume, then about its config map, then about its
image, then about its batch job. -/
structure Carried (e : Engine) (jobId : String) (task : Task) (inputs : List (HeldVolume Resource))
    (succeeded : Prop) (volume config image batch : List Exchange) : Prop where
  volume_touches : ∀ x ∈ volume,
    Resource.Touches e.ns .volume (objectName .volume jobId task.id) x.request
  config_provided : config ≠ [] → e.Provides (configOf jobId task (inputs.map (·.mountPath))) config
  image_touches : ∀ x ∈ image, (∃ stream, Resource.Touches e.ns .imageStream stream x.request) ∨
    Resource.Touches e.ns .build (objectName .build jobId task.id) x.request
  batch_provided : batch ≠ [] → config ≠ [] ∧
    ∃ image, e.Provides (e.batchOf jobId task image (e.mountsOf jobId task inputs)) batch
  image_settled : Resource.Settled e.ns .build (objectName .build jobId task.id) image
  batch_settled : Resource.Settled e.ns .batchJob (objectName .batchJob jobId task.id) batch
  bound : succeeded → Since (·.request.Reads) (e.ShowsBound jobId task) volume
  done : succeeded → Since (fun x => ¬ x.request.Posts (ResourceKind.batchJob.collectionPath e.ns)
    (objectName .batchJob jobId task.id)) (e.ShowsSucceeded jobId task) batch

section

variable {inputs : List (HeldVolume Resource)} {succeeded : Prop}
  {volume config image batch : List Exchange}

theorem Carried.config_touches (h : e.Carried jobId task inputs succeeded volume config image batch) :
    ∀ x ∈ config, Resource.Touches e.ns .config (objectName .config jobId task.id) x.request :=
  fun x hx => ((h.config_provided (List.ne_nil_of_mem hx)).1 x hx).touches (ConfigTemplate.isNamed _)

theorem Carried.batch_touches (h : e.Carried jobId task inputs succeeded volume config image batch) :
    ∀ x ∈ batch, Resource.Touches e.ns .batchJob (objectName .batchJob jobId task.id) x.request := by
  intro x hx
  obtain ⟨-, image, provided⟩ := h.batch_provided (List.ne_nil_of_mem hx)
  exact (provided.1 x hx).touches (BatchTemplate.isNamed _)

end

theorem mounts_eq {output : HeldVolume Resource} {config : Resource}
    {inputs : List (HeldVolume Resource)} (hv : output.resource.template = e.volumeOf jobId task)
    (hm : output.mountPath = dataPath jobId task.id)
    (hc : config.template = configOf jobId task (inputs.map (·.mountPath))) :
    e.mounts jobId config output inputs = e.mountsOf jobId task inputs := by
  simp only [mounts, mountsOf, Resource.name, hv, hm, hc, Resource.ofTemplate]

theorem ran_execute {output output' : HeldVolume Resource} {config : Resource}
    {inputs : List (HeldVolume Resource)} {log : List (Event engineInterface)}
    {result : Except EngineError TaskOutcome}
    (hv : output.resource.template = e.volumeOf jobId task)
    (hm : output.mountPath = dataPath jobId task.id)
    (hc : config.template = configOf jobId task (inputs.map (·.mountPath)))
    (h : (e.execute jobId task output config inputs).Ran log (result, output')) :
    (output'.producer = output.producer ∧ output'.mountPath = output.mountPath ∧
        output'.resource.template = output.resource.template) ∧
      ∃ tv tc ti tb, traffic log = tv ++ tc ++ ti ++ tb ∧
        e.Carried jobId task inputs (∃ outcome, result = .ok outcome) tv tc ti tb := by
  obtain ⟨log₁, ⟨made, volume⟩, log₂, rfl, h₁, h₂⟩ := Script.ran_bind.1 h
  obtain ⟨log₃, outcome, log₄, rfl, h₃, h₄⟩ := Script.ran_bind.1 h₂
  obtain ⟨rfl, hr⟩ := Script.ran_pure.1 h₄
  cases hr
  obtain ⟨inner₁, hi₁, ht₁⟩ := ran_manage h₁
  obtain ⟨hv', manages⟩ := Resource.keeps_create true _ hv _ _ _ hi₁
  refine ⟨⟨rfl, rfl, hv'.trans hv.symm⟩, ?_⟩
  have tv : ∀ x ∈ traffic log₁,
      Resource.Touches e.ns .volume (objectName .volume jobId task.id) x.request := by
    intro x hx
    rw [ht₁] at hx
    exact (manages x hx).touches (VolumeTemplate.isNamed _)
  rw [List.append_nil, traffic_append]
  have nothing {kind : ResourceKind} {name : String} : Resource.Settled e.ns kind name [] :=
    followedBy_of_forall_not (List.forall_mem_nil _)
  obtain ⟨_, h₅, rfl⟩ | ⟨log₅, _, log₆, rfl, h₅, h₆⟩ := ran_run_bind.1 h₃
  · obtain ⟨rfl, -⟩ := Script.ran_pure.1 h₅
    exact ⟨traffic log₁, [], [], [], by simp, tv, by simp, by simp, by simp, nothing, nothing,
      by simp, by simp⟩
  obtain ⟨rfl, hmade⟩ := Script.ran_pure.1 h₅
  have bound : Since (·.request.Reads) (e.ShowsBound jobId task) (traffic log₁) := by
    cases made with
    | error cause => cases hmade
    | ok _ =>
        rw [ht₁]
        have seen := Resource.create_showsReady hi₁
        rw [hv] at seen
        exact seen.mono (fun _ h => h) fun x hx => hx.mono fun claim ⟨_, h⟩ => ready_volume h
  obtain ⟨log₇, ⟨made₂, config₂⟩, log₈, rfl, h₇, h₈⟩ := ran_run_liftM_bind.1 h₆
  obtain ⟨inner₂, hi₂, ht₂⟩ := ran_manage h₇
  obtain ⟨hc₂, manages₂⟩ := Resource.keeps_create true _ hc _ _ _ hi₂
  have tc : e.Provides (configOf jobId task (inputs.map (·.mountPath))) (traffic log₇) := by
    have posted := Resource.create_posts hi₂
    rw [Resource.kind, hc] at posted
    rw [ht₂]
    exact ⟨manages₂, posted⟩
  have some_config : traffic log₇ ≠ [] := List.ne_nil_of_mem tc.2.choose_spec.1
  rw [List.nil_append, traffic_append]
  obtain ⟨_, h₉, rfl⟩ | ⟨log₉, _, log₁₀, rfl, h₉, h₁₀⟩ := ran_run_bind.1 h₈
  · obtain ⟨rfl, -⟩ := Script.ran_pure.1 h₉
    exact ⟨traffic log₁, traffic log₇, [], [], by simp, tv, fun _ => tc, by simp, by simp, nothing,
      nothing, by simp, by simp⟩
  obtain ⟨rfl, -⟩ := Script.ran_pure.1 h₉
  rw [List.nil_append]
  obtain ⟨_, h₁₁, rfl⟩ | ⟨log₁₁, built, log₁₂, rfl, h₁₁, h₁₂⟩ := ran_run_bind.1 h₁₀
  · obtain ⟨ti, settled⟩ := ran_buildImage h₁₁
    exact ⟨traffic log₁, traffic log₇, traffic log₁₀, [], by simp, tv, fun _ => tc, ti, by simp,
      settled, nothing, by simp, by simp⟩
  obtain ⟨ti, settled⟩ := ran_buildImage h₁₁
  have same : e.mounts jobId config₂ { output with resource := volume } inputs =
      e.mountsOf jobId task inputs := mounts_eq hv' hm hc₂
  rw [traffic_append]
  obtain ⟨_, h₁₃, rfl⟩ | ⟨log₁₃, deployed, log₁₄, rfl, h₁₃, h₁₄⟩ := ran_run_bind.1 h₁₂
  · obtain ⟨tb, settled₂, -⟩ := ran_deploy h₁₃
    rw [same] at tb
    exact ⟨traffic log₁, traffic log₇, traffic log₁₁, traffic log₁₂, by simp, tv, fun _ => tc, ti,
      fun _ => ⟨some_config, _, tb⟩, settled, settled₂, by simp, by simp⟩
  obtain ⟨tb, settled₂, done⟩ := ran_deploy h₁₃
  rw [same] at tb
  obtain ⟨rfl, -⟩ := Script.ran_pure.1 h₁₄
  exact ⟨traffic log₁, traffic log₇, traffic log₁₁, traffic log₁₃, by simp, tv, fun _ => tc, ti,
    fun _ => ⟨some_config, _, tb⟩, settled, settled₂, fun _ => bound, fun _ => done _ rfl⟩

end Engine
end ImageryJobs
