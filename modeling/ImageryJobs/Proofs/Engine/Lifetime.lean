import ImageryJobs.Proofs.Engine.Tasks

/-!
How long outputs live. While the batch job of a task is there, so are the claims that it mounts:
the output of each task that it depends on, which is complete, and its own. The names of different
tasks must differ for that.
-/

namespace ImageryJobs
namespace Engine

open EngineScript

/-- The tasks have different names for their objects of each kind. -/
def Distinct (jobId : String) (tasks : List Task) : Prop :=
  ∀ kind, (tasks.map fun t => objectName kind jobId t.id).Nodup

def Creates (e : Engine) (jobId : String) (task : Task) (kind : ResourceKind) (x : Exchange) :
    Prop :=
  x.request.Posts (kind.collectionPath e.ns) (objectName kind jobId task.id)

def Removes (e : Engine) (jobId : String) (task : Task) (kind : ResourceKind) (x : Exchange) :
    Prop :=
  x.request.Deletes (kind.instancePath e.ns (objectName kind jobId task.id))

/-- A task's output can be read: its claim was seen bound and was neither created nor deleted since,
and its batch job was seen to have succeeded and was not created since. -/
def Readable (e : Engine) (jobId : String) (task : Task) (l : List Exchange) : Prop :=
  Since (fun x => ¬ e.Creates jobId task .volume x ∧ ¬ e.Removes jobId task .volume x)
      (e.ShowsBound jobId task) l ∧
    Since (fun x => ¬ e.Creates jobId task .batchJob x) (e.ShowsSucceeded jobId task) l

/-- The claim of one task outlives the batch job of another. -/
def Outlives (e : Engine) (jobId : String) (owner task : Task) (l : List Exchange) : Prop :=
  Until (fun x => ¬ e.Removes jobId owner .volume x) (e.Removes jobId task .batchJob) l

/-- Between what was sent before and after the creation of its batch job, what a task reads can be
read, and its claims outlive the batch job. -/
def GuardedAt (e : Engine) (jobId : String) (tasks : List Task) (task : Task)
    (before after : List Exchange) : Prop :=
  (∀ p ∈ task.dependsOn, ∃ owner ∈ tasks, owner.seqNum = p ∧ e.Readable jobId owner before ∧
    e.Outlives jobId owner task after) ∧ e.Outlives jobId task task after

def Guarded (e : Engine) (jobId : String) (tasks : List Task) (l : List Exchange) : Prop :=
  ∀ task ∈ tasks, ∀ before x after, l = before ++ x :: after → e.Creates jobId task .batchJob x →
    e.GuardedAt jobId tasks task before after

/-- Every volume in the arena is the output of the task of its place, and can be read. -/
def Stocked (e : Engine) (jobId : String) (tasks : List Task) (arena : Arena Resource)
    (l : List Exchange) : Prop :=
  ∀ p v, arena.place p = some (some v) → ∃ owner ∈ tasks, owner.seqNum = p ∧
    v.resource.template = (VolumeTemplate.forTask jobId owner.id e.config.cluster).template ∧
    e.Readable jobId owner l

variable {e : Engine} {jobId : String} {tasks : List Task} {task owner : Task}
  {arena arena' left : Arena Resource} {inputs : List (HeldVolume Resource)} {succeeded : Prop}
  {tv tc ti tb dc di dv l before : List Exchange} {x : Exchange}

theorem GuardedAt.append {after : List Exchange} (h : e.GuardedAt jobId tasks task before after) :
    e.GuardedAt jobId tasks task before (after ++ l) := by
  refine ⟨fun p hp => ?_, h.2.append⟩
  obtain ⟨owner, ho, hseq, readable, outlives⟩ := h.1 p hp
  exact ⟨owner, ho, hseq, readable, outlives.append⟩

theorem Distinct.eq_of_name (h : Distinct jobId tasks) (ht : task ∈ tasks) (ho : owner ∈ tasks)
    {kind : ResourceKind} (heq : objectName kind jobId task.id = objectName kind jobId owner.id) :
    task = owner :=
  List.inj_on_of_nodup_map (h kind) ht ho heq

/-- Leaves what makes a task's output readable. -/
def Spares (e : Engine) (jobId : String) (owner : Task) (x : Exchange) : Prop :=
  ¬ e.Creates jobId owner .volume x ∧ ¬ e.Removes jobId owner .volume x ∧
    ¬ e.Creates jobId owner .batchJob x

theorem Readable.append (h : e.Readable jobId owner before) (hl : ∀ x ∈ l, e.Spares jobId owner x) :
    e.Readable jobId owner (before ++ l) :=
  ⟨h.1.append fun x hx => ⟨(hl x hx).1, (hl x hx).2.1⟩, h.2.append fun x hx => (hl x hx).2.2⟩

section Touching

variable {kind kind' : ResourceKind} {name : String}

theorem not_creates_of_touches (h : Resource.Touches e.ns kind name x.request)
    (hne : kind = kind' → name ≠ objectName kind' jobId owner.id) :
    ¬ e.Creates jobId owner kind' x ∧ ¬ e.Removes jobId owner kind' x := by
  constructor
  · intro hp
    obtain ⟨rfl, heq⟩ := h.of_posts hp
    exact hne rfl heq.symm
  · intro hd
    obtain ⟨rfl, heq⟩ := h.of_deletes hd
    exact hne rfl heq.symm

theorem spares_of_touches (h : Resource.Touches e.ns kind name x.request)
    (hv : kind = .volume → name ≠ objectName .volume jobId owner.id)
    (hb : kind = .batchJob → name ≠ objectName .batchJob jobId owner.id) :
    e.Spares jobId owner x :=
  have volume := not_creates_of_touches h hv
  ⟨volume.1, volume.2, (not_creates_of_touches h hb).1⟩

end Touching

section Attempting

variable (a : e.Attempt jobId task arena inputs left arena' succeeded tv tc ti tb dc di dv)
  (distinct : Distinct jobId tasks)
include a

/-- Everything but the reading of the inputs leaves the outputs of other tasks alone. -/
theorem Attempt.spares_others (distinct : Distinct jobId tasks) (ht : task ∈ tasks)
    (ho : owner ∈ tasks) (hne : task ≠ owner) :
    (∀ x ∈ tv ++ tc ++ ti ++ tb, e.Spares jobId owner x) ∧
      ∀ x ∈ dc ++ dv, e.Spares jobId owner x := by
  have names {kind : ResourceKind} :
      objectName kind jobId task.id ≠ objectName kind jobId owner.id :=
    fun heq => hne (distinct.eq_of_name ht ho heq)
  constructor
  · intro x hx
    simp only [List.mem_append] at hx
    obtain ((hx | hx) | hx) | hx := hx
    · exact spares_of_touches (a.carried.volume_touches x hx) (fun _ => names) (by simp)
    · exact spares_of_touches (a.carried.config_touches x hx) (by simp) (by simp)
    · obtain ⟨stream, h⟩ | h := a.carried.image_touches x hx
      · exact spares_of_touches h (by simp) (by simp)
      · exact spares_of_touches h (by simp) (by simp)
    · exact spares_of_touches (a.carried.batch_touches x hx) (by simp) (fun _ => names)
  · intro x hx
    obtain hx | hx := List.mem_append.1 hx
    · exact spares_of_touches (a.config_clears x hx).touches (by simp) (by simp)
    · exact spares_of_touches (a.volume_clears x hx).touches (fun _ => names) (by simp)

/-- Deleting the inputs leaves the outputs of all tasks alone that this one does not depend on. -/
theorem Attempt.spares_unread (distinct : Distinct jobId tasks) (ho : owner ∈ tasks)
    (stocked : e.Stocked jobId tasks arena before) (hp : owner.seqNum ∉ task.dependsOn) :
    ∀ x ∈ di, e.Spares jobId owner x := by
  intro x hx
  obtain ⟨v, hv, hc⟩ := a.inputs_clear x hx
  obtain ⟨p, hmem, hplace⟩ := (Arena.take_ok a.take).2.1 v hv
  obtain ⟨writer, hw, hseq, htemplate, -⟩ := stocked p v hplace
  have hname : v.resource.name = objectName .volume jobId writer.id := by
    rw [Resource.name, htemplate]
    rfl
  have hkind : v.resource.kind = .volume := by
    rw [Resource.kind, htemplate]
    rfl
  rw [hname, hkind] at hc
  refine spares_of_touches hc.touches (fun _ heq => ?_) (by simp)
  rw [distinct.eq_of_name hw ho heq] at hseq
  exact hp (hseq ▸ hmem)

theorem Attempt.not_self (hv : arena.place task.seqNum = some none) :
    task.seqNum ∉ task.dependsOn := by
  intro hmem
  obtain ⟨v, -, hp⟩ := (Arena.take_ok a.take).1 _ hmem
  rw [hv] at hp
  cases hp

theorem Attempt.readable (distinct : Distinct jobId tasks) (ht : task ∈ tasks)
    (stocked : e.Stocked jobId tasks arena before) (hv : arena.place task.seqNum = some none)
    (hs : succeeded) : e.Readable jobId task (tv ++ tc ++ ti ++ tb ++ dc ++ di ++ dv) := by
  have unread := a.spares_unread distinct ht stocked (a.not_self hv)
  have none_left : dv = [] := (a.handed hs).1
  subst none_left
  rw [List.append_nil]
  constructor
  · have bound := (a.carried.bound hs).mono
      (fun x hx => (⟨hx.not_posts _ _, hx.not_deletes _⟩ :
        ¬ e.Creates jobId task .volume x ∧ ¬ e.Removes jobId task .volume x)) fun _ hx => hx
    refine ((((bound.append ?_).append ?_).append ?_).append ?_).append ?_
    · exact fun x hx => not_creates_of_touches (a.carried.config_touches x hx) (by simp)
    · intro x hx
      obtain ⟨stream, h⟩ | h := a.carried.image_touches x hx
      · exact not_creates_of_touches h (by simp)
      · exact not_creates_of_touches h (by simp)
    · exact fun x hx => not_creates_of_touches (a.carried.batch_touches x hx) (by simp)
    · exact fun x hx => not_creates_of_touches (a.config_clears x hx).touches (by simp)
    · exact fun x hx => ⟨(unread x hx).1, (unread x hx).2.1⟩
  · have done := (a.carried.done hs).append_left (l := tv ++ tc ++ ti)
    refine (done.append ?_).append ?_
    · exact fun x hx => (a.config_clears x hx).not_posts _
    · exact fun x hx => (unread x hx).2.2

theorem Attempt.stocked (distinct : Distinct jobId tasks) (ht : task ∈ tasks)
    (stocked : e.Stocked jobId tasks arena before) (hv : arena.place task.seqNum = some none) :
    e.Stocked jobId tasks arena' (before ++ (tv ++ tc ++ ti ++ tb ++ dc ++ di ++ dv)) := by
  have kept : ∀ p v, left.place p = some (some v) → ∃ owner ∈ tasks, owner.seqNum = p ∧
      v.resource.template = (VolumeTemplate.forTask jobId owner.id e.config.cluster).template ∧
      e.Readable jobId owner (before ++ (tv ++ tc ++ ti ++ tb ++ dc ++ di ++ dv)) := by
    intro p v hp
    rw [(Arena.take_ok a.take).2.2] at hp
    split at hp
    · cases hq : arena.place p <;> simp [hq] at hp
    · rename_i hunread
      obtain ⟨owner, ho, rfl, htemplate, readable⟩ := stocked p v hp
      have hne : task ≠ owner := by
        intro heq
        rw [← heq, hv] at hp
        cases hp
      obtain ⟨stages, clears⟩ := a.spares_others distinct ht ho hne
      have unread := a.spares_unread distinct ho stocked hunread
      refine ⟨owner, ho, rfl, htemplate, readable.append fun x hx => ?_⟩
      rw [List.mem_append, List.mem_append, List.mem_append] at hx
      obtain ((hx | hx) | hx) | hx := hx
      · exact stages x hx
      · exact clears x (List.mem_append_left _ hx)
      · exact unread x hx
      · exact clears x (List.mem_append_right _ hx)
  by_cases hs : succeeded
  · obtain ⟨-, output, htemplate, -, hplace⟩ := a.handed hs
    intro p v hp
    rw [hplace] at hp
    split at hp
    · rename_i heq
      cases hp
      refine ⟨task, ht, heq.symm, htemplate, ?_⟩
      have readable := a.readable distinct ht stocked hv hs
      exact ⟨readable.1.append_left, readable.2.append_left⟩
    · exact kept p v hp
  · rw [(a.volume_deleted hs).1]
    exact kept

theorem Attempt.batch_of_creates {task' : Task} {rest post : List Exchange}
    (hl : tv ++ tc ++ ti ++ tb ++ dc ++ di ++ dv = rest ++ x :: post)
    (hx : e.Creates jobId task' .batchJob x) :
    ∃ tb₁ tb₂, tb = tb₁ ++ x :: tb₂ ∧ rest = tv ++ tc ++ ti ++ tb₁ ∧
      post = tb₂ ++ (dc ++ di ++ dv) := by
  have grouped : (tv ++ tc ++ ti) ++ (tb ++ (dc ++ di ++ dv)) = rest ++ x :: post := by
    simpa using hl
  obtain ⟨early, hearly, -⟩ | ⟨tb₁, rfl, hrest⟩ := append_eq_split grouped
  · have hmem : x ∈ tv ++ tc ++ ti := by simp [hearly]
    simp only [List.mem_append] at hmem
    obtain (hmem | hmem) | hmem := hmem
    · cases ((a.carried.volume_touches x hmem).of_posts hx).1
    · cases ((a.carried.config_touches x hmem).of_posts hx).1
    · obtain ⟨stream, h⟩ | h := a.carried.image_touches x hmem
      · cases (h.of_posts hx).1
      · cases (h.of_posts hx).1
  obtain ⟨tb₂, htb, rfl⟩ | ⟨late, rfl, hlate⟩ := append_eq_split hrest
  · exact ⟨tb₁, tb₂, htb, rfl, rfl⟩
  · have hmem : x ∈ dc ++ di ++ dv := by simp [hlate]
    simp only [List.mem_append] at hmem
    obtain (hmem | hmem) | hmem := hmem
    · exact absurd hx ((a.config_clears x hmem).not_posts _)
    · obtain ⟨v, -, hc⟩ := a.inputs_clear x hmem
      exact absurd hx (hc.not_posts _)
    · exact absurd hx ((a.volume_clears x hmem).not_posts _)

/-- The one creation of a batch job in an attempt is that of its task, when the claims of its
inputs and its own are there, and they stay until the batch job is deleted. -/
theorem Attempt.guarded (distinct : Distinct jobId tasks) (ht : task ∈ tasks)
    (stocked : e.Stocked jobId tasks arena before) (hv : arena.place task.seqNum = some none)
    (guarded : e.Guarded jobId tasks before) :
    e.Guarded jobId tasks (before ++ (tv ++ tc ++ ti ++ tb ++ dc ++ di ++ dv)) := by
  intro task' ht' pre x post heq hx
  obtain ⟨rest, rfl, rfl⟩ | ⟨rest, rfl, hl⟩ := append_eq_split heq
  · exact (guarded task' ht' pre x rest rfl hx).append
  · obtain ⟨tb₁, tb₂, htb, rfl, rfl⟩ := a.batch_of_creates hl hx
    have same : task' = task :=
      distinct.eq_of_name ht' ht ((a.carried.batch_touches x (by simp [htb])).of_posts hx).2
    subst same
    -- The batch job is deleted within its stage, and nothing else is deleted there.
    have outlives (owner : Task) : e.Outlives jobId owner task' (tb₂ ++ (dc ++ di ++ dv)) := by
      refine Until.append (until_of_exists ?_ fun y hy => ?_)
      · exact a.carried.batch_settled tb₁ x tb₂ htb hx
      · have touches := a.carried.batch_touches y (by simp [htb, hy])
        exact (not_creates_of_touches touches (by simp)).2
    refine ⟨fun p hp => ?_, outlives task'⟩
    obtain ⟨v, -, hplace⟩ := (Arena.take_ok a.take).1 p hp
    obtain ⟨owner, ho, rfl, -, readable⟩ := stocked p v hplace
    have hne : task' ≠ owner := by
      intro heq
      rw [← heq, hv] at hplace
      cases hplace
    refine ⟨owner, ho, rfl, readable.append fun y hy => ?_, outlives owner⟩
    refine (a.spares_others distinct ht ho hne).1 y ?_
    rw [htb]
    simp only [List.mem_append] at hy ⊢
    obtain hy | hy := hy
    · exact .inl hy
    · exact .inr (.inl hy)

end Attempting

theorem Performed.guarded (distinct : Distinct jobId tasks) (ht : task ∈ tasks)
    (hv : arena.place task.seqNum = some none) (h : e.Performed jobId task arena arena' l)
    (hi : e.Stocked jobId tasks arena before ∧ e.Guarded jobId tasks before) :
    e.Stocked jobId tasks arena' (before ++ l) ∧ e.Guarded jobId tasks (before ++ l) := by
  obtain ⟨rfl, rfl⟩ | ⟨inputs, left, succeeded, tv, tc, ti, tb, dc, di, dv, rfl, a⟩ := h
  · simpa using hi
  · exact ⟨a.stocked distinct ht hi.1 hv, a.guarded distinct ht hi.1 hv hi.2⟩

theorem run_guarded (distinct : Distinct jobId tasks) {log : List (Event engineInterface)}
    {result : Except EngineError (List TaskOutcome)} (h : (e.run jobId tasks).Ran log result) :
    e.Guarded jobId tasks (traffic log) := by
  have nothing : e.Guarded jobId tasks [] := by
    intro task _ pre x post heq _
    cases pre <;> cases heq
  obtain hnil | ⟨arena, before, l, hl, ⟨-, guarded⟩, clears, -⟩ :=
    ran_run (fun arena l => e.Stocked jobId tasks arena l ∧ e.Guarded jobId tasks l)
      (fun arena empty => ⟨fun p v hp => absurd hp (empty p v), nothing⟩)
      (fun task ht arena arena' before l hv hp hi => hp.guarded distinct ht hv hi) h
  · rw [hnil]
    exact nothing
  · rw [hl]
    intro task ht pre x post heq hx
    obtain ⟨rest, rfl, rfl⟩ | ⟨rest, rfl, hlate⟩ := append_eq_split heq
    · exact (guarded task ht pre x rest rfl hx).append
    · obtain ⟨p, v, -, hc⟩ := clears x (by simp [hlate])
      exact absurd hx (hc.not_posts _)

/-- At any moment of a run of tasks with different names: when the batch job of a task was created,
the output of each task that it depends on could be read, and until the batch job is deleted neither
those claims nor its own are. -/
theorem run_keeps_claims (e : Engine) (jobId : String) (tasks : List Task)
    (distinct : Distinct jobId tasks) {log : List (Event engineInterface)}
    {rest : EngineScript (Except EngineError (List TaskOutcome))}
    (h : (e.run jobId tasks).Follows log rest) {task : Task} (ht : task ∈ tasks)
    {before after : List Exchange} {x : Exchange} (hl : traffic log = before ++ x :: after)
    (hx : e.Creates jobId task .batchJob x) :
    (∀ p ∈ task.dependsOn, ∃ owner ∈ tasks, owner.seqNum = p ∧ e.Readable jobId owner before ∧
        PrecededBy (e.Removes jobId owner .volume) (e.Removes jobId task .batchJob) after) ∧
      PrecededBy (e.Removes jobId task .volume) (e.Removes jobId task .batchJob) after := by
  have exclusive (owner : Task) (y : Exchange) (hb : e.Removes jobId task .batchJob y) :
      ¬ e.Removes jobId owner .volume y := by
    intro hv
    have heq := congrArg Request.path (hb.symm.trans hv)
    cases (ResourceKind.instancePath_inj heq).1
  obtain ⟨later, result, hrun⟩ := h.exists_ran
  obtain ⟨inputs, own⟩ := run_guarded distinct hrun task ht before x (after ++ traffic later)
    (by simp [hl]) hx
  have still {owner : Task} (ho : e.Outlives jobId owner task (after ++ traffic later)) :
      PrecededBy (e.Removes jobId owner .volume) (e.Removes jobId task .batchJob) after :=
    (Until.precededBy ho (exclusive owner)).of_append
  refine ⟨fun p hp => ?_, still own⟩
  obtain ⟨owner, ho, hseq, readable, outlives⟩ := inputs p hp
  exact ⟨owner, ho, hseq, readable, still outlives⟩

theorem run_keeps_claims_sample :
    ∃ log rest task before x after, Distinct "j" sampleTasks ∧
      (sampleEngine.run "j" sampleTasks).Follows log rest ∧ task ∈ sampleTasks ∧
      traffic log = before ++ x :: after ∧ sampleEngine.Creates "j" task .batchJob x ∧
      task.dependsOn = [0] ∧
      (∀ p ∈ task.dependsOn, ∃ owner ∈ sampleTasks, owner.seqNum = p ∧
        sampleEngine.Readable "j" owner before ∧
        PrecededBy (sampleEngine.Removes "j" owner .volume) (sampleEngine.Removes "j" task .batchJob)
          after) ∧
      PrecededBy (sampleEngine.Removes "j" task .volume) (sampleEngine.Removes "j" task .batchJob)
        after := by
  have distinct : Distinct "j" sampleTasks := by
    intro kind
    cases kind <;> decide +kernel
  have posted : ∃ x ∈ traffic ((sampleEngine.run "j" sampleTasks).play obliging 0).1,
      x.request.Posts (ResourceKind.batchJob.collectionPath "ns") (objectName .batchJob "j" "b") := by
    rw [run, ordered_sample]
    decide +kernel
  obtain ⟨x, hmem, hx⟩ := posted
  obtain ⟨before, after, hl⟩ := List.append_of_mem hmem
  have ran := Script.ran_play obliging 0 (sampleEngine.run "j" sampleTasks)
  have ht : Task.ofSpec "b" "j" ⟨1, "p", ∅, [0]⟩ ∈ sampleTasks := by simp [sampleTasks]
  exact ⟨_, _, _, before, x, after, distinct, ran, ht, hl, hx, rfl,
    run_keeps_claims sampleEngine "j" sampleTasks distinct ran ht hl hx⟩

end Engine
end ImageryJobs
