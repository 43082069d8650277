import ImageryJobs.Proofs.Engine.HandOver
import ImageryJobs.Proofs.Engine.Rounds

/-!
Tasks one after the other. `Attempt` says what running one task sent and which volumes it took and
left; what every attempt preserves holds at the end of all tasks, however the run of them ends.
-/

namespace ImageryJobs
namespace Engine

open EngineScript

/-- What running a task sent once it had its inputs: what carrying it out sent, then the deletions
of its config map and of its inputs, then that of its own volume unless it was handed over. -/
structure Attempt (e : Engine) (jobId : String) (task : Task) (arena : Arena Resource)
    (inputs : List (HeldVolume Resource)) (left arena' : Arena Resource) (succeeded : Prop)
    (volume config image batch noConfig noInputs noVolume : List Exchange) : Prop where
  take : arena.take task.seqNum task.dependsOn = .ok (inputs, left)
  carried : e.Carried jobId task inputs succeeded volume config image batch
  config_clears : ∀ x ∈ noConfig,
    Resource.Clears e.ns .config (objectName .config jobId task.id) x.request
  config_deleted : ∃ x ∈ noConfig,
    x.request.Deletes (ResourceKind.config.instancePath e.ns (objectName .config jobId task.id))
  inputs_clear : ∀ x ∈ noInputs, ∃ v ∈ inputs,
    Resource.Clears e.ns v.resource.kind v.resource.name x.request
  inputs_deleted : ∀ v ∈ inputs, ∃ x ∈ noInputs, x.request.Deletes (v.resource.path e.ns)
  volume_clears : ∀ x ∈ noVolume,
    Resource.Clears e.ns .volume (objectName .volume jobId task.id) x.request
  handed : succeeded → noVolume = [] ∧ ∃ v : HeldVolume Resource,
    v.resource.template = e.volumeOf jobId task ∧ v.mountPath = dataPath jobId task.id ∧
      ∀ p, arena'.place p = if p = task.seqNum then some (some v) else left.place p
  volume_deleted : ¬ succeeded → arena' = left ∧ ∃ x ∈ noVolume,
    x.request.Deletes (ResourceKind.volume.instancePath e.ns (objectName .volume jobId task.id))

/-- Running a task sent nothing and changed nothing, or was an attempt. -/
def Performed (e : Engine) (jobId : String) (task : Task) (arena arena' : Arena Resource)
    (l : List Exchange) : Prop :=
  (arena' = arena ∧ l = []) ∨
    ∃ inputs left succeeded tv tc ti tb dc di dv, l = tv ++ tc ++ ti ++ tb ++ dc ++ di ++ dv ∧
      e.Attempt jobId task arena inputs left arena' succeeded tv tc ti tb dc di dv

variable {e : Engine} {jobId : String}

theorem ran_runTask {task : Task} {arena arena' : Arena Resource}
    {log : List (Event engineInterface)} {result : Except EngineError TaskOutcome}
    (hv : arena.place task.seqNum = some none)
    (h : (e.runTask jobId task arena).Ran log (result, arena')) :
    e.Performed jobId task arena arena' (traffic log) := by
  unfold runTask at h
  cases ht : arena.take task.seqNum task.dependsOn with
  | error cause =>
      rw [ht] at h
      obtain ⟨rfl, heq⟩ := Script.ran_pure.1 h
      cases heq
      exact .inl ⟨rfl, rfl⟩
  | ok taken =>
      obtain ⟨inputs, left⟩ := taken
      rw [ht] at h
      have vacant : left.place task.seqNum = some none := by
        rw [(Arena.take_ok ht).2.2, hv]
        split <;> rfl
      obtain ⟨log₁, ⟨carried, output⟩, log₂, rfl, h₁, h₂⟩ := Script.ran_bind.1 h
      obtain ⟨⟨hp, hm, hvol⟩, tv, tc, ti, tb, hl, stages⟩ := ran_execute rfl rfl rfl h₁
      obtain ⟨log₃, _, log₄, rfl, h₃, h₄⟩ := Script.ran_bind.1 h₂
      obtain ⟨log₅, _, log₆, rfl, h₅, h₆⟩ := Script.ran_bind.1 h₄
      obtain ⟨hc, hcd⟩ := ran_discard rfl h₃
      obtain ⟨hi, hid⟩ := ran_discardAll h₅
      refine .inr ⟨inputs, left, ∃ outcome, carried = .ok outcome, tv, tc, ti, tb, traffic log₃,
        traffic log₅, traffic log₆, by simp [hl], ?_⟩
      cases carried with
      | ok outcome =>
          have hp : output.producer = task.seqNum := hp
          obtain ⟨arena'', hr, hplace⟩ :=
            Arena.register_of_vacant (a := left) (v := output) (by rw [hp]; exact vacant)
          simp only [hr] at h₆
          obtain ⟨rfl, heq⟩ := Script.ran_pure.1 h₆
          cases heq
          exact {
            take := ht
            carried := stages
            config_clears := hc
            config_deleted := hcd
            inputs_clear := hi
            inputs_deleted := hid
            volume_clears := List.forall_mem_nil _
            handed := fun _ => ⟨rfl, output, hvol, hm, fun p => by rw [hplace, hp]⟩
            volume_deleted := fun hn => absurd ⟨outcome, rfl⟩ hn }
      | error cause =>
          obtain ⟨log₇, _, log₈, rfl, h₇, h₈⟩ := Script.ran_bind.1 h₆
          obtain ⟨rfl, heq⟩ := Script.ran_pure.1 h₈
          cases heq
          obtain ⟨hd, hdd⟩ := ran_discard hvol h₇
          rw [List.append_nil]
          exact {
            take := ht
            carried := stages
            config_clears := hc
            config_deleted := hcd
            inputs_clear := hi
            inputs_deleted := hid
            volume_clears := hd
            handed := fun hs => absurd hs (by simp)
            volume_deleted := fun _ => ⟨rfl, hdd⟩ }

theorem Performed.vacant {task : Task} {arena arena' : Arena Resource} {l : List Exchange}
    (h : e.Performed jobId task arena arena' l) {p : Nat} (hp : arena.place p = some none)
    (hne : p ≠ task.seqNum) : arena'.place p = some none := by
  obtain ⟨rfl, -⟩ | ⟨inputs, left, succeeded, tv, tc, ti, tb, dc, di, dv, -, a⟩ := h
  · exact hp
  · have hleft : left.place p = some none := by
      rw [(Arena.take_ok a.take).2.2, hp]
      split <;> rfl
    by_cases hs : succeeded
    · obtain ⟨-, v, -, -, hplace⟩ := a.handed hs
      rw [hplace, if_neg hne, hleft]
    · rw [(a.volume_deleted hs).1, hleft]

/-- What every attempt at a task preserves holds after all tasks were run. -/
theorem ran_runTasks (inv : Arena Resource → List Exchange → Prop) {tasks : List Task}
    (step : ∀ task ∈ tasks, ∀ arena arena' before l, arena.place task.seqNum = some none →
      e.Performed jobId task arena arena' l → inv arena before → inv arena' (before ++ l))
    {arena arena' : Arena Resource} (distinct : (tasks.map (·.seqNum)).Nodup)
    (vacant : ∀ task ∈ tasks, arena.place task.seqNum = some none)
    {log : List (Event engineInterface)} {result : Except EngineError (List TaskOutcome)}
    (h : (e.runTasks jobId tasks arena).Ran log (result, arena')) {before : List Exchange}
    (hi : inv arena before) : inv arena' (before ++ traffic log) := by
  have rounds := rounds_of_ran h
  clear h
  induction rounds generalizing before with
  | complete _ | withdrawn _ _ _ _ | unstarted _ _ _ _ => simpa using hi
  | @failed task rest _ _ _ _ _ ran =>
      have hv := vacant task List.mem_cons_self
      simpa using step task List.mem_cons_self _ _ _ _ hv (ran_runTask hv ran) hi
  | @unfinished task rest _ _ _ _ _ ran =>
      have hv := vacant task List.mem_cons_self
      simpa using step task List.mem_cons_self _ _ _ _ hv (ran_runTask hv ran) hi
  | @finished task rest _ _ _ _ _ _ _ ran _ ih =>
      have hv := vacant task List.mem_cons_self
      have performed := ran_runTask hv ran
      have hi₁ := step task List.mem_cons_self _ _ _ _ hv performed hi
      obtain ⟨hnew, hrest⟩ := List.nodup_cons.1 distinct
      have vacant₁ : ∀ t ∈ rest, _ := fun t ht =>
        performed.vacant (vacant t (List.mem_cons_of_mem _ ht)) fun heq =>
          hnew (List.mem_map.2 ⟨t, ht, heq⟩)
      have steps := fun t ht => step t (List.mem_cons_of_mem task ht)
      simpa using ih steps hrest vacant₁ hi₁

/-- A run deletes at its end what the arena holds. What every attempt at a task preserves, and these
deletions too, holds of what was sent. -/
theorem ran_run (inv : Arena Resource → List Exchange → Prop) {tasks : List Task}
    (start : ∀ arena, (∀ p v, arena.place p ≠ some (some v)) → inv arena [])
    (step : ∀ task ∈ tasks, ∀ arena arena' before l, arena.place task.seqNum = some none →
      e.Performed jobId task arena arena' l → inv arena before → inv arena' (before ++ l))
    {log : List (Event engineInterface)} {result : Except EngineError (List TaskOutcome)}
    (h : (e.run jobId tasks).Ran log result) :
    traffic log = [] ∨ ∃ arena before l, traffic log = before ++ l ∧ inv arena before ∧
      (∀ x ∈ l, ∃ p v, arena.place p = some (some v) ∧
        Resource.Clears e.ns v.resource.kind v.resource.name x.request) ∧
      ∀ p v, arena.place p = some (some v) →
        ∃ x ∈ l, x.request.Deletes (v.resource.path e.ns) := by
  unfold run at h
  dsimp only at h
  cases hp : (Arena.plan ((ordered tasks).map fun t => (t.seqNum, t.dependsOn)) :
      Except VolumeError (Arena Resource)) with
  | error cause =>
      rw [hp] at h
      obtain ⟨rfl, -⟩ := Script.ran_pure.1 h
      exact .inl rfl
  | ok arena =>
      rw [hp] at h
      obtain ⟨log₁, ⟨ended, arena₁⟩, log₂, rfl, h₁, h₂⟩ := Script.ran_bind.1 h
      obtain ⟨log₃, _, log₄, rfl, h₃, h₄⟩ := Script.ran_bind.1 h₂
      obtain ⟨rfl, -⟩ := Script.ran_pure.1 h₄
      obtain ⟨distinct, places⟩ := Arena.plan_ok hp
      rw [List.map_map] at distinct places
      have perm := ordered_perm tasks
      have vacant : ∀ task ∈ ordered tasks, arena.place task.seqNum = some none := by
        intro task ht
        rw [places, if_pos]
        exact List.mem_map.2 ⟨task, ht, rfl⟩
      have empty : ∀ p v, arena.place p ≠ some (some v) := by
        intro p v hv
        rw [places] at hv
        split at hv <;> simp at hv
      have held := ran_runTasks inv (fun task ht => step task (perm.mem_iff.1 ht)) distinct vacant
        h₁ (start arena empty)
      obtain ⟨hc, hd⟩ := ran_discardAll h₃
      refine .inr ⟨arena₁, traffic log₁, traffic log₃, by simp, by simpa using held, ?_, ?_⟩
      · intro x hx
        obtain ⟨v, hv, hx⟩ := hc x hx
        obtain ⟨p, hp⟩ := Arena.mem_volumes.1 hv
        exact ⟨p, v, hp, hx⟩
      · intro p v hv
        exact hd v (Arena.mem_volumes.2 ⟨p, hv⟩)

/-! ### A sample -/

def sampleEngine : Engine :=
  ⟨"ns", (ImageCatalog.ofResources .initial).withProcess "p" ⟨⟨"uri", "ref", none⟩, none⟩,
    .ofCluster .initial⟩

/-- The second task reads what the first one writes. -/
def sampleTasks : List Task :=
  [.ofSpec "a" "j" ⟨0, "p", ∅, []⟩, .ofSpec "b" "j" ⟨1, "p", ∅, [0]⟩]

theorem ordered_sample : ordered sampleTasks = sampleTasks :=
  List.mergeSort_of_pairwise (by decide)

/-- Answers to a run of the sample under which all goes well: every object is ready at once. -/
def obliging (n : Nat) : (op : EngineOp) → engineInterface.Answer op
  | .report _ => .ok ()
  | .cluster (.pause _) => false
  | .cluster (.send _) =>
      let inputs := if n < 19 then [] else [dataPath "j" "a"]
      let tags := Json.ofList ["latest"] fun tag =>
        .mk [("tag", .string tag), ("items", .ofList [0] .ofNat)]
      .ok (.json (.mk [
        ("data", .ofDict (ConfigTemplate.forTask "j" "a" ∅ inputs).data .string),
        ("status", .mk [("phase", .string "Bound"), ("succeeded", .ofNat 1),
          ("dockerImageRepository", .string "r"), ("tags", tags)])]))

end Engine
end ImageryJobs
