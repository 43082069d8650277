import ImageryJobs.Proofs.Engine.Tasks

/-!
A run leaves nothing behind. At every moment between tasks, whatever was created is deleted again
or is a volume in the arena, and the arena is emptied at the end. Image streams stay.
-/

namespace ImageryJobs
namespace Engine

open EngineScript

/-- The arena holds a volume of this kind and name. -/
def Held (arena : Arena Resource) (kind : ResourceKind) (name : String) : Prop :=
  ∃ p v, arena.place p = some (some v) ∧ v.resource.kind = kind ∧ v.resource.name = name

/-- What was created under a name was deleted after that, or is held. -/
def Accounted (ns : String) (kind : ResourceKind) (name : String) (arena : Arena Resource)
    (l : List Exchange) : Prop :=
  Resource.Settled ns kind name l ∨ Held arena kind name

variable {e : Engine} {jobId : String} {task : Task} {arena arena' left : Arena Resource}
  {inputs : List (HeldVolume Resource)} {succeeded : Prop} {tv tc ti tb dc di dv : List Exchange}
  {kind : ResourceKind} {name : String}

/-- An attempt deletes what it created, or hands its volume over. -/
theorem Attempt.accounted
    (a : e.Attempt jobId task arena inputs left arena' succeeded tv tc ti tb dc di dv)
    (hk : kind ≠ .imageStream) :
    Accounted e.ns kind name arena' (tv ++ tc ++ ti ++ tb ++ dc ++ di ++ dv) := by
  have hdc : Resource.Settled e.ns kind name dc := Resource.settled_of_clears a.config_clears
  have hdv : Resource.Settled e.ns kind name dv := Resource.settled_of_clears a.volume_clears
  have hdi : Resource.Settled e.ns kind name di := by
    refine followedBy_of_forall_not fun x hx => ?_
    obtain ⟨v, -, hc⟩ := a.inputs_clear x hx
    exact hc.not_posts _
  by_cases hvol : kind = .volume ∧ name = objectName .volume jobId task.id
  · obtain ⟨rfl, rfl⟩ := hvol
    by_cases hs : succeeded
    · obtain ⟨-, v, ht, -, hplace⟩ := a.handed hs
      refine .inr ⟨task.seqNum, v, by rw [hplace, if_pos rfl], ?_, ?_⟩
      · rw [Resource.kind, ht]
        rfl
      · rw [Resource.name, ht]
        rfl
    · exact .inl (hdv.append_of_exists (a.volume_deleted hs).2)
  refine .inl (FollowedBy.append (FollowedBy.append ?_ hdi) hdv)
  by_cases hcfg : kind = .config ∧ name = objectName .config jobId task.id
  · obtain ⟨rfl, rfl⟩ := hcfg
    exact hdc.append_of_exists a.config_deleted
  have htv := Resource.settled_of_touches a.carried.volume_touches hvol
  have htc := Resource.settled_of_touches a.carried.config_touches hcfg
  have hti : Resource.Settled e.ns kind name ti := by
    by_cases hown : kind = .build ∧ name = objectName .build jobId task.id
    · obtain ⟨rfl, rfl⟩ := hown
      exact a.carried.image_settled
    · refine followedBy_of_forall_not fun x hx hp => ?_
      obtain ⟨stream, ht⟩ | ht := a.carried.image_touches x hx
      · exact hk (ht.of_posts hp).1
      · exact hown (ht.of_posts hp)
  have htb : Resource.Settled e.ns kind name tb := by
    by_cases hown : kind = .batchJob ∧ name = objectName .batchJob jobId task.id
    · obtain ⟨rfl, rfl⟩ := hown
      exact a.carried.batch_settled
    · exact Resource.settled_of_touches a.carried.batch_touches hown
  exact (((htv.append htc).append hti).append htb).append hdc

/-- What the arena holds stays there, or is deleted once it was read. -/
theorem Attempt.held
    (a : e.Attempt jobId task arena inputs left arena' succeeded tv tc ti tb dc di dv)
    (hv : arena.place task.seqNum = some none) (h : Held arena kind name) :
    Held arena' kind name ∨ ∃ x ∈ tv ++ tc ++ ti ++ tb ++ dc ++ di ++ dv,
      x.request.Deletes (kind.instancePath e.ns name) := by
  obtain ⟨p, v, hp, rfl, rfl⟩ := h
  obtain ⟨htake, -, hleft⟩ := Arena.take_ok a.take
  by_cases hmem : p ∈ task.dependsOn
  · obtain ⟨v', hv', hp'⟩ := htake p hmem
    rw [hp] at hp'
    cases hp'
    obtain ⟨x, hx, hd⟩ := a.inputs_deleted v hv'
    exact .inr ⟨x, by simp [hx], hd⟩
  · have hp' : left.place p = some (some v) := by rw [hleft, if_neg hmem, hp]
    refine .inl ⟨p, v, ?_, rfl, rfl⟩
    by_cases hs : succeeded
    · obtain ⟨-, _, -, -, hplace⟩ := a.handed hs
      have hne : p ≠ task.seqNum := by
        intro heq
        rw [heq, hv] at hp
        cases hp
      rw [hplace, if_neg hne, hp']
    · rw [(a.volume_deleted hs).1, hp']

theorem Performed.accounted {before l : List Exchange}
    (h : e.Performed jobId task arena arena' l) (hv : arena.place task.seqNum = some none)
    (hk : kind ≠ .imageStream) (ha : Accounted e.ns kind name arena before) :
    Accounted e.ns kind name arena' (before ++ l) := by
  obtain ⟨rfl, rfl⟩ | ⟨inputs, left, succeeded, tv, tc, ti, tb, dc, di, dv, rfl, a⟩ := h
  · simpa using ha
  · obtain hl | hheld := a.accounted hk
    · obtain hb | hheld := ha
      · exact .inl (hb.append hl)
      · obtain hheld | hd := a.held hv hheld
        · exact .inr hheld
        · exact .inl (hl.append_of_exists hd)
    · exact .inr hheld

theorem Attempt.named
    (a : e.Attempt jobId task arena inputs left arena' succeeded tv tc ti tb dc di dv) :
    ∀ x ∈ tv ++ tc ++ ti ++ tb ++ dc ++ di ++ dv, x.request.Named := by
  intro x hx
  simp only [List.mem_append] at hx
  obtain (((((hx | hx) | hx) | hx) | hx) | hx) | hx := hx
  · exact (a.carried.volume_touches x hx).named
  · exact (a.carried.config_touches x hx).named
  · obtain ⟨stream, h⟩ | h := a.carried.image_touches x hx
    · exact h.named
    · exact h.named
  · exact (a.carried.batch_touches x hx).named
  · exact (a.config_clears x hx).named
  · obtain ⟨v, -, h⟩ := a.inputs_clear x hx
    exact h.named
  · exact (a.volume_clears x hx).named

variable {tasks : List Task} {log : List (Event engineInterface)}
  {result : Except EngineError (List TaskOutcome)}

theorem run_named (h : (e.run jobId tasks).Ran log result) :
    ∀ x ∈ traffic log, x.request.Named := by
  have step : ∀ task ∈ tasks, ∀ arena arena' before l, arena.place task.seqNum = some none →
      e.Performed jobId task arena arena' l → (∀ x ∈ before, x.request.Named) →
      ∀ x ∈ before ++ l, x.request.Named := by
    intro task _ arena arena' before l _ hp hb x hx
    obtain hx | hx := List.mem_append.1 hx
    · exact hb x hx
    · obtain ⟨-, rfl⟩ | ⟨inputs, left, succeeded, tv, tc, ti, tb, dc, di, dv, rfl, a⟩ := hp
      · cases hx
      · exact a.named x hx
  obtain hnil | ⟨arena, before, l, hl, hb, hc, -⟩ :=
    ran_run (fun _ l => ∀ x ∈ l, x.request.Named) (fun _ _ => List.forall_mem_nil _) step h
  · rw [hnil]
    exact List.forall_mem_nil _
  · intro x hx
    rw [hl] at hx
    obtain hx | hx := List.mem_append.1 hx
    · exact hb x hx
    · obtain ⟨p, v, -, h⟩ := hc x hx
      exact h.named

theorem run_settled (h : (e.run jobId tasks).Ran log result) (hk : kind ≠ .imageStream) :
    Resource.Settled e.ns kind name (traffic log) := by
  have nothing : Resource.Settled e.ns kind name [] :=
    followedBy_of_forall_not (List.forall_mem_nil _)
  have step : ∀ task ∈ tasks, ∀ arena arena' before l, arena.place task.seqNum = some none →
      e.Performed jobId task arena arena' l → Accounted e.ns kind name arena before →
      Accounted e.ns kind name arena' (before ++ l) :=
    fun _ _ _ _ _ _ hv hp ha => hp.accounted hv hk ha
  obtain hnil | ⟨arena, before, l, hl, ha, hc, hd⟩ :=
    ran_run (Accounted e.ns kind name) (fun _ _ => .inl nothing) step h
  · rw [hnil]
    exact nothing
  · have hsettled : Resource.Settled e.ns kind name l := by
      refine followedBy_of_forall_not fun x hx => ?_
      obtain ⟨p, v, -, hx⟩ := hc x hx
      exact hx.not_posts _
    rw [hl]
    obtain hb | ⟨p, v, hp, rfl, rfl⟩ := ha
    · exact hb.append hsettled
    · exact hsettled.append_of_exists (hd p v hp)

/-- When a run is over, every object that it created was sent a deletion after that, except for
image streams. -/
theorem run_deletes_created (e : Engine) (jobId : String) (tasks : List Task)
    {log : List (Event engineInterface)} {result : Except EngineError (List TaskOutcome)}
    (h : (e.run jobId tasks).Ran log result) {kind : ResourceKind} (hk : kind ≠ .imageStream)
    {before after : List Exchange} {x : Exchange} (hl : traffic log = before ++ x :: after)
    {document : Json} (hx : x.request = .post (kind.collectionPath e.ns) document) :
    ∃ name, Template.nameOf document = some name ∧
      ∃ y ∈ after, y.request = .delete (kind.instancePath e.ns name) := by
  obtain ⟨name, hname⟩ := run_named h x (by simp [hl]) _ _ hx
  exact ⟨name, hname, run_settled h hk before x after hl ⟨document, hx, hname⟩⟩

theorem run_deletes_created_sample :
    ∃ log result before x after document, (sampleEngine.run "j" sampleTasks).Ran log result ∧
      ResourceKind.volume ≠ .imageStream ∧ traffic log = before ++ x :: after ∧
      x.request = .post (ResourceKind.volume.collectionPath sampleEngine.ns) document ∧
      ∃ name, Template.nameOf document = some name ∧
        ∃ y ∈ after, y.request = .delete (ResourceKind.volume.instancePath sampleEngine.ns name) := by
  have posted : ∃ x ∈ traffic ((sampleEngine.run "j" sampleTasks).play obliging 0).1,
      x.request = .post (ResourceKind.volume.collectionPath "ns")
        (VolumeTemplate.forTask "j" "a" .initial).template.document := by
    rw [run, ordered_sample]
    decide +kernel
  obtain ⟨x, hmem, hx⟩ := posted
  obtain ⟨before, after, hl⟩ := List.append_of_mem hmem
  have ran := Script.ran_play obliging 0 (sampleEngine.run "j" sampleTasks)
  exact ⟨_, _, before, x, after, _, ran, by decide, hl, hx,
    run_deletes_created sampleEngine "j" sampleTasks ran (by decide) hl hx⟩

end Engine
end ImageryJobs
