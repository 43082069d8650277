import ImageryJobs.Proofs.Cluster.Documents
import Mathlib.Data.List.Nodup

/-!
What backs the mounts of a batch job's container. The pod has one volume for each name, and the
first mount of a name alone decides whether that volume is a claim or a config map and whether it
can be written. A later mount of the name is served if it asks for the same source and, of a claim,
not for more access.
-/

namespace ImageryJobs

/-- What backs a volume. -/
def Manifest.PodVolume.source? (v : PodVolume) : Option MountSource :=
  match v.claim, v.configMap with
  | some claim, none => some (.claim claim.claimName)
  | none, some config => some (.configMap config.name)
  | _, _ => none

theorem Manifest.PodSpec.get?_volumes (spec : PodSpec) :
    spec.toJson.get? "volumes" =
      if spec.volumes = [] then none else some (.ofList spec.volumes PodVolume.toJson) := by
  rw [toJson, Json.get?_mk, listUnlessEmpty]
  cases spec.volumes <;> simp [Dict.ofList]

namespace Template

/-- A claim that backs a volume. -/
def claimIn (claim : Json) : Option Manifest.ClaimSource := do
  let name ← textAt claim ["claimName"]
  return ⟨name, claim.get? "readOnly" = some (.bool true)⟩

/-- A volume of a pod. -/
def volumeIn (volume : Json) : Option Manifest.PodVolume := do
  let name ← textAt volume ["name"]
  return ⟨name, (volume.get? "persistentVolumeClaim").bind claimIn,
    (textAt volume ["configMap", "name"]).map .mk⟩

/-- The volumes of a batch job's pod, in order. A pod without volumes leaves them out. -/
def volumesIn (job : Json) : List Manifest.PodVolume :=
  (((job.path? ["spec", "template", "spec", "volumes"]).bind Json.items?).bind
    (·.mapM volumeIn)).getD []

theorem claimIn_toJson (claim : Manifest.ClaimSource) : claimIn claim.toJson = some claim := by
  obtain ⟨name, readOnly⟩ := claim
  cases readOnly <;>
    simp [claimIn, textAt, Json.path?, Manifest.ClaimSource.toJson, Manifest.memberIfTrue,
      Json.get?_mk, Dict.ofList, Json.string?]

theorem volumeIn_toJson (volume : Manifest.PodVolume) : volumeIn volume.toJson = some volume := by
  obtain ⟨name, claim, configMap⟩ := volume
  cases claim <;> cases configMap <;>
    simp [volumeIn, textAt, Json.path?, Manifest.PodVolume.toJson, Json.memberIf, Json.get?_mk,
      Dict.ofList, Json.string?, claimIn_toJson, Manifest.ConfigMapSource.toJson]

end Template

open Template

namespace BatchTemplate

variable {mounts : List Mount} {m : Mount} {name : String} {v : Manifest.PodVolume}

/-- The mount that decides what the volume of a name is: the first of that name. -/
def firstOf (mounts : List Mount) (name : String) : Option Mount :=
  mounts.find? (·.source.name = name)

@[simp] theorem podVolume_name : (podVolume m).name = m.source.name := by
  rw [podVolume]
  cases m.source <;> rfl

@[simp] theorem podVolume_source? : (podVolume m).source? = some m.source := by
  rw [podVolume]
  cases m.source <;> rfl

theorem podVolume_claim : (podVolume m).claim =
    match m.source with
    | .claim name => some ⟨name, m.readOnly⟩
    | .configMap _ => none := by
  rw [podVolume]
  cases m.source <;> rfl

theorem exists_firstOf (hm : m ∈ mounts) : ∃ first, firstOf mounts m.source.name = some first := by
  refine Option.isSome_iff_exists.1 (List.find?_isSome.2 ⟨m, hm, ?_⟩)
  simp

theorem firstOf_name {first : Mount} (h : firstOf mounts name = some first) :
    first.source.name = name := by
  simpa using List.find?_some h

/-- One mount after those whose volumes are there. -/
def addVolume (volumes : List Manifest.PodVolume) (m : Mount) : List Manifest.PodVolume :=
  if volumes.any (·.name = m.source.name) then volumes else volumes ++ [podVolume m]

theorem nodup_addVolume {volumes : List Manifest.PodVolume} (h : (volumes.map (·.name)).Nodup) :
    ((addVolume volumes m).map (·.name)).Nodup := by
  rw [addVolume]
  split
  · exact h
  · rename_i absent
    rw [List.map_append]
    refine List.nodup_append'.2 ⟨h, List.nodup_singleton _, ?_⟩
    simpa [List.disjoint_singleton] using absent

/-- The volume of a name stays once it is there. -/
theorem find?_addVolume (volumes : List Manifest.PodVolume) :
    (addVolume volumes m).find? (·.name = name) =
      (volumes.find? (·.name = name)).or
        (if m.source.name = name then some (podVolume m) else none) := by
  rw [addVolume]
  split
  · rename_i present
    by_cases hn : m.source.name = name
    · obtain ⟨v, hv⟩ : ∃ v, volumes.find? (·.name = name) = some v := by
        refine Option.isSome_iff_exists.1 (List.find?_isSome.2 ?_)
        simpa [hn] using present
      rw [hv, Option.some_or]
    · rw [if_neg hn, Option.or_none]
  · rw [List.find?_append, List.find?_singleton, podVolume_name]
    simp

theorem nodup_podVolumes (mounts : List Mount) : ((podVolumes mounts).map (·.name)).Nodup := by
  have add : ∀ (mounts : List Mount) (volumes : List Manifest.PodVolume),
      (volumes.map (·.name)).Nodup → ((mounts.foldl addVolume volumes).map (·.name)).Nodup := by
    intro mounts
    induction mounts with
    | nil => exact fun _ h => h
    | cons m mounts ih => exact fun volumes h => ih _ (nodup_addVolume h)
  exact add mounts [] List.nodup_nil

theorem find?_podVolumes (mounts : List Mount) (name : String) :
    (podVolumes mounts).find? (·.name = name) = (firstOf mounts name).map podVolume := by
  have add : ∀ (mounts : List Mount) (volumes : List Manifest.PodVolume),
      (mounts.foldl addVolume volumes).find? (·.name = name) =
        (volumes.find? (·.name = name)).or ((firstOf mounts name).map podVolume) := by
    intro mounts
    induction mounts with
    | nil => exact fun volumes => (Option.or_none ..).symm
    | cons m mounts ih =>
        intro volumes
        rw [List.foldl_cons, ih, find?_addVolume, Option.or_assoc]
        by_cases hn : m.source.name = name <;> simp [hn, firstOf]
  exact add mounts []

theorem mem_podVolumes_iff :
    v ∈ podVolumes mounts ↔ (firstOf mounts v.name).map podVolume = some v := by
  rw [← find?_podVolumes]
  refine ⟨fun hv => ?_, List.mem_of_find?_eq_some⟩
  obtain ⟨w, hw⟩ := Option.isSome_iff_exists.1
    (List.find?_isSome (p := (·.name = v.name)).2 ⟨v, hv, by simp⟩)
  have same : w.name = v.name := by simpa using List.find?_some hw
  rw [hw, List.inj_on_of_nodup_map (nodup_podVolumes mounts) (List.mem_of_find?_eq_some hw) hv same]

theorem exists_mem_podVolumes (hm : m ∈ mounts) :
    ∃ first, firstOf mounts m.source.name = some first ∧
      ∀ v, v ∈ podVolumes mounts ∧ v.name = m.source.name ↔ v = podVolume first := by
  obtain ⟨first, hf⟩ := exists_firstOf hm
  refine ⟨first, hf, fun v => ⟨fun ⟨hv, hn⟩ => ?_, ?_⟩⟩
  · rw [mem_podVolumes_iff, hn, hf] at hv
    exact (Option.some.inj hv).symm
  · rintro rfl
    have same : (podVolume first).name = m.source.name := podVolume_name.trans (firstOf_name hf)
    exact ⟨mem_podVolumes_iff.2 (by rw [same, hf]; rfl), same⟩

/-! ### Documents -/

theorem volumesIn_document (t : BatchTemplate) :
    volumesIn t.template.document = podVolumes t.mounts := by
  have volumes : t.template.document.path? ["spec", "template", "spec", "volumes"] =
      if podVolumes t.mounts = [] then none
      else some (.ofList (podVolumes t.mounts) Manifest.PodVolume.toJson) := by
    simp [template, manifest, Manifest.BatchJob.toJson, Manifest.BatchJobSpec.toJson,
      Manifest.PodTemplate.toJson, Manifest.PodSpec.get?_volumes, Json.path?, Json.get?_mk,
      Dict.ofList, Json.memberIf]
  rw [volumesIn, volumes]
  split
  · rename_i none_left
    exact none_left.symm
  · exact congrArg (Option.getD · []) (mapM_map fun v _ => volumeIn_toJson v)

theorem mountsIn_getD_document (t : BatchTemplate) :
    (mountsIn t.template.document).getD [] = t.mounts.map volumeMount := by
  by_cases h : t.mounts = []
  · have left_out : mountsIn t.template.document = none := by
      simp [mountsIn, template, manifest, Manifest.BatchJob.toJson, Manifest.BatchJobSpec.toJson,
        Manifest.PodTemplate.toJson, Manifest.PodSpec.get?_containers, Manifest.Container.toJson,
        Manifest.listUnlessEmpty, Json.path?, Json.get?_mk, Dict.ofList, Json.ofList, Json.memberIf,
        Json.items?, h]
    rw [left_out, h]
    rfl
  · rw [mountsIn_document h]
    rfl

/-! ### Mounts and what they find -/

/-- The volume that the first mount of a name gets is what another mount of that name asks for. -/
structure Suffices (first m : Mount) : Prop where
  source : first.source = m.source
  access : ∀ claim, m.source = .claim claim → first.readOnly → m.readOnly

/-- The pod of a batch job has what some mounts ask for: each of them names one volume, which its
own source backs, and no volume keeps a mount of its claim from writing. -/
structure ServesMounts (mounts : List Mount) (job : Json) : Prop where
  names : ((volumesIn job).map (·.name)).Nodup
  order : (mountsIn job).getD [] = mounts.map volumeMount
  one : ∀ m ∈ mounts, ∃! v, v ∈ volumesIn job ∧ v.name = m.source.name
  backed : ∀ m ∈ mounts, ∀ v ∈ volumesIn job, v.name = m.source.name → v.source? = some m.source
  writable : ∀ v ∈ volumesIn job, ∀ c, v.claim = some c → c.readOnly →
    ∀ m ∈ mounts, m.source = .claim c.claimName → m.readOnly

variable {t : BatchTemplate}

theorem ServesMounts.suffices (served : ServesMounts t.mounts t.template.document)
    (hm : m ∈ t.mounts) {first : Mount} (hf : firstOf t.mounts m.source.name = some first) :
    Suffices first m := by
  have name := firstOf_name hf
  have volume : podVolume first ∈ volumesIn t.template.document := by
    rw [volumesIn_document, mem_podVolumes_iff, podVolume_name, name, hf]
    rfl
  have source : first.source = m.source := by
    have backed := served.backed m hm _ volume (podVolume_name.trans name)
    exact Option.some.inj (podVolume_source?.symm.trans backed)
  refine ⟨source, fun claim hc readOnly => ?_⟩
  have given : (podVolume first).claim = some ⟨claim, first.readOnly⟩ := by
    rw [podVolume_claim, source, hc]
  exact served.writable _ volume _ given readOnly m hm hc

theorem servesMounts_of_suffices
    (h : ∀ m ∈ t.mounts, ∀ first, firstOf t.mounts m.source.name = some first → Suffices first m) :
    ServesMounts t.mounts t.template.document where
  names := by
    rw [volumesIn_document]
    exact nodup_podVolumes t.mounts
  order := mountsIn_getD_document t
  one m hm := by
    obtain ⟨first, -, volume⟩ := exists_mem_podVolumes hm
    rw [volumesIn_document]
    exact ⟨podVolume first, (volume _).2 rfl, fun v hv => (volume v).1 hv⟩
  backed m hm v hv hn := by
    obtain ⟨first, hf, volume⟩ := exists_mem_podVolumes hm
    rw [volumesIn_document] at hv
    rw [(volume v).1 ⟨hv, hn⟩, podVolume_source?, (h m hm first hf).source]
  writable v hv c hc readOnly m hm source := by
    rw [volumesIn_document, mem_podVolumes_iff] at hv
    obtain ⟨first, hf, rfl⟩ := Option.map_eq_some_iff.1 hv
    have own : first.source = m.source ∧ first.readOnly = c.readOnly := by
      rw [podVolume_claim] at hc
      split at hc
      · rename_i name hs
        cases hc
        exact ⟨hs.trans source.symm, rfl⟩
      · cases hc
    rw [podVolume_name, own.1] at hf
    exact (h m hm first hf).access _ source (own.2.trans readOnly)

/-- The volumes of a pod have different names, its mounts are those that were declared, and each
mount finds one volume: what the first mount of its name asked for. All mounts are served just if
no first mount of a name asks for another source than a later one, or only for reading where a later
one is to write. -/
theorem servesMounts_iff (t : BatchTemplate) :
    ((volumesIn t.template.document).map (·.name)).Nodup ∧
    (mountsIn t.template.document).getD [] = t.mounts.map volumeMount ∧
    (∀ m ∈ t.mounts, ∃ first v, firstOf t.mounts m.source.name = some first ∧
      (∀ w, w ∈ volumesIn t.template.document ∧ w.name = m.source.name ↔ w = v) ∧
      v.source? = some first.source ∧ ∀ c, v.claim = some c → c.readOnly = first.readOnly) ∧
    (ServesMounts t.mounts t.template.document ↔
      ∀ m ∈ t.mounts, ∀ first, firstOf t.mounts m.source.name = some first → Suffices first m) := by
  refine ⟨?_, mountsIn_getD_document t, fun m hm => ?_,
    fun served m hm first hf => served.suffices hm hf, servesMounts_of_suffices⟩
  · rw [volumesIn_document]
    exact nodup_podVolumes t.mounts
  · obtain ⟨first, hf, volume⟩ := exists_mem_podVolumes hm
    rw [volumesIn_document]
    refine ⟨first, podVolume first, hf, volume, podVolume_source?, fun c hc => ?_⟩
    rw [podVolume_claim] at hc
    split at hc
    · cases hc
      rfl
    · cases hc

/-- A batch job that reads from a claim at one path and writes to it at another. -/
def readAndWrite : BatchTemplate :=
  .forTask "job" "task" "process" "image"
    [(Mount.claim "data" "/in").asReadOnly, Mount.claim "data" "/out"] .initial

/-- It cannot write: the mount for reading comes first. -/
theorem readAndWrite_not_served :
    ¬ ServesMounts readAndWrite.mounts readAndWrite.template.document := by
  intro served
  have first : firstOf readAndWrite.mounts "data" =
      some (Mount.claim "data" "/in").asReadOnly := rfl
  have writes : Mount.claim "data" "/out" ∈ readAndWrite.mounts := by decide
  exact Bool.false_ne_true ((served.suffices writes first).access "data" rfl rfl)

/-- Sources of different names do not get into each other's way. -/
theorem servesMounts_of_nodup (h : (t.mounts.map (·.source.name)).Nodup) :
    ServesMounts t.mounts t.template.document := by
  refine servesMounts_of_suffices fun m hm first hf => ?_
  have same : first = m :=
    List.inj_on_of_nodup_map h (List.mem_of_find?_eq_some hf) hm (firstOf_name hf)
  exact same ▸ ⟨rfl, fun _ _ h => h⟩

end BatchTemplate
end ImageryJobs
