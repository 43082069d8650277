import ImageryJobs.Cluster.ImageBuild
import ImageryJobs.Proofs.Cluster.Objects

/-!
What bringing up an image sends. Only the stream and the own build are created, only the own build
and pods are deleted, and a build that went well is deleted again.
-/

namespace ImageryJobs

open ClusterScript

namespace ImageBuild

variable {ns : String} {w : Watch} {ts tb : Template}

/-- A stream and a build of given templates. -/
def HasTemplates (ts tb : Template) (b : ImageBuild) : Prop :=
  b.stream.template = ts ∧ b.build.template = tb

section

variable {ε α : Type} {P : Request → Prop} {b b' : ImageBuild}
  {log : List (Event clusterInterface)} {result : Except ε α}

theorem ranWith_onStream {work : Managing ε α} :
    RanWith (onStream work) b log result b' ↔
      ∃ stream, RanWith work b.stream log result stream ∧ b' = { b with stream } := by
  have h : (onStream work).run.run b = (fun p => (p.1, { b with stream := p.2 })) <$>
      (work.run.run b.stream : ClusterScript _) := by
    simp [onStream, liftM, monadLift, MonadLift.monadLift]
  simp only [RanWith, h, Script.ran_map, Prod.mk.injEq, Prod.exists]
  constructor
  · intro given
    obtain ⟨_, stream, hr, rfl, rfl⟩ := given
    exact ⟨stream, hr, rfl⟩
  · intro given
    obtain ⟨stream, hr, rfl⟩ := given
    exact ⟨result, stream, hr, rfl, rfl⟩

theorem ranWith_onBuild {work : Managing ε α} :
    RanWith (onBuild work) b log result b' ↔
      ∃ build, RanWith work b.build log result build ∧ b' = { b with build } := by
  have h : (onBuild work).run.run b = (fun p => (p.1, { b with build := p.2 })) <$>
      (work.run.run b.build : ClusterScript _) := by
    simp [onBuild, liftM, monadLift, MonadLift.monadLift]
  simp only [RanWith, h, Script.ran_map, Prod.mk.injEq, Prod.exists]
  constructor
  · intro given
    obtain ⟨_, build, hr, rfl, rfl⟩ := given
    exact ⟨build, hr, rfl⟩
  · intro given
    obtain ⟨build, hr, rfl⟩ := given
    exact ⟨result, build, hr, rfl, rfl⟩

theorem keeps_onStream {work : Managing ε α} (h : Keeps (·.template = ts) P work) :
    Keeps (HasTemplates ts tb) P (onStream work) := by
  intro b hb log result b' hr
  obtain ⟨stream, hs, rfl⟩ := ranWith_onStream.1 hr
  obtain ⟨ht, hx⟩ := h _ hb.1 _ _ _ hs
  exact ⟨⟨ht, hb.2⟩, hx⟩

theorem keeps_onBuild {work : Managing ε α} (h : Keeps (·.template = tb) P work) :
    Keeps (HasTemplates ts tb) P (onBuild work) := by
  intro b hb log result b' hr
  obtain ⟨build, hs, rfl⟩ := ranWith_onBuild.1 hr
  obtain ⟨ht, hx⟩ := h _ hb.2 _ _ _ hs
  exact ⟨⟨hb.1, ht⟩, hx⟩

end

/-- Requests that bring an image up. -/
def Provides (ns : String) (ts tb : Template) (r : Request) : Prop :=
  r = .post (ts.kind.collectionPath ns) ts.document ∨ Resource.Manages ns tb r

theorem sends_existingImage (b : ImageBuild) : Sends Request.Reads (existingImage ns b).run :=
  sends_run_adapt _ <| sends_run_bind (Resource.sends_fetch _) fun _ => sends_run_pure _

theorem sends_peers (b : ImageBuild) : Sends Request.Reads (peers ns b).run :=
  sends_run_adapt _ <| sends_run_bind (Calling.sends_list _ _) fun _ => sends_run_pure _

theorem sends_lookForPeers (b : ImageBuild) : Sends Request.Reads (lookForPeers ns b).run := by
  refine sends_run_bind (sends_peers b) fun names => ?_
  refine sends_run_bind (sends_existingImage b) fun found => ?_
  cases found with
  | some image => exact sends_run_pure _
  | none => dsimp only; split <;> exact sends_run_pure _

theorem sends_awaitPeers (b : ImageBuild) : Sends Request.Reads (awaitPeers ns w b).run :=
  sends_poll _ (sends_lookForPeers b) (sends_run_throw _) (sends_run_throw _) _ _

theorem keeps_cleanup :
    Keeps (HasTemplates ts tb) (Resource.Clears ns tb.kind tb.name) (cleanup ns) :=
  keeps_onBuild Resource.keeps_delete

theorem ran_logs {b b' : ImageBuild} (hb : HasTemplates ts tb b)
    {log : List (Event clusterInterface)} {text : Option String}
    (h : ((logs ns).run b).Ran log (text, b')) :
    HasTemplates ts tb b' ∧ ∀ x ∈ traffic log, x.request.Reads := by
  obtain ⟨log₁, ⟨result, b₁⟩, log₂, rfl, h₁, h₂⟩ := Script.ran_bind.1 h
  obtain ⟨hb₁, hx⟩ := keeps_onBuild Resource.keeps_logs b hb _ _ _ h₁
  cases result <;>
    · obtain ⟨rfl, heq⟩ := Script.ran_pure.1 h₂
      cases heq
      rw [List.append_nil]
      exact ⟨hb₁, hx⟩

theorem keeps_logs : Keeps (ε := LifecycleError) (HasTemplates ts tb) Request.Reads
    (liftM (logs ns : StateT ImageBuild ClusterScript (Option String))) := by
  intro b hb log result b' hr
  obtain ⟨text, hr, -⟩ := ranWith_liftM_state.1 hr
  exact ran_logs hb hr

theorem keeps_buildFor : Keeps (HasTemplates ts tb) (Resource.Manages ns tb) (buildFor ns w) := by
  refine keeps_get_bind fun b _ => ?_
  split
  · refine keeps_bind (keeps_onBuild (Resource.keeps_create _)) fun _ => ?_
    refine keeps_bind (keeps_logs.mono fun _ h => .inr (.inl h)) fun _ => ?_
    exact keeps_bind (keeps_cleanup.mono fun _ h => .inr h) fun _ => keeps_pure _
  · exact keeps_throw _

theorem keeps_run (hs : ts.shared = true) :
    Keeps (HasTemplates ts tb) (Provides ns ts tb) (run ns w) := by
  refine keeps_get_bind fun b _ => ?_
  refine keeps_bind (keeps_mk_liftM ((sends_existingImage b).mono fun _ h => ?_)) fun found => ?_
  · exact .inr (.inr (.inl h))
  cases found with
  | some image => exact keeps_pure _
  | none =>
      refine keeps_bind (keeps_onStream ((Resource.keeps_create_shared hs).mono fun _ h => ?_))
        fun _ => ?_
      · exact h.imp_right fun h => .inr (.inl h)
      refine keeps_get_bind fun b _ => ?_
      refine keeps_bind (keeps_mk_liftM ((sends_awaitPeers b).mono fun _ h => ?_)) fun found => ?_
      · exact .inr (.inr (.inl h))
      cases found with
      | some image => exact keeps_pure _
      | none => exact keeps_buildFor.mono fun _ h => .inr h

theorem cleanup_deletes {b b' : ImageBuild} (hb : HasTemplates ts tb b)
    {log : List (Event clusterInterface)} {result : Except LifecycleError Unit}
    (h : RanWith (cleanup ns) b log result b') :
    ∃ x ∈ traffic log, x.request.Deletes (tb.kind.instancePath ns tb.name) := by
  obtain ⟨build, h, -⟩ := ranWith_onBuild.1 h
  exact Resource.delete_deletes hb.2 h

theorem settled_cleanup {b b' : ImageBuild} (hb : HasTemplates ts tb b)
    (log : List (Event clusterInterface)) {log' : List (Event clusterInterface)}
    {result : Except LifecycleError Unit} (h : RanWith (cleanup ns) b log' result b') :
    Resource.Settled ns tb.kind tb.name (traffic (log ++ log')) := by
  rw [traffic_append]
  exact FollowedBy.append_of_exists
    (Resource.settled_of_clears (keeps_cleanup b hb _ _ _ h).2) (cleanup_deletes hb h)

variable {b b' : ImageBuild} {log : List (Event clusterInterface)} {built : BuiltImage}

theorem buildFor_settled (hb : HasTemplates ts tb b)
    (h : RanWith (buildFor ns w) b log (.ok built) b') :
    Resource.Settled ns tb.kind tb.name (traffic log) := by
  have h := ranWith_get_bind.1 h
  split at h
  · obtain ⟨log₁, _, b₁, log₂, rfl, h₁, h⟩ := ranWith_bind_ok.1 h
    have hb₁ := (keeps_onBuild (Resource.keeps_create _) b hb _ _ _ h₁).1
    obtain ⟨log₃, _, b₂, log₄, rfl, h₃, h⟩ := ranWith_bind_ok.1 h
    have hb₂ := (keeps_logs b₁ hb₁ _ _ _ h₃).1
    obtain ⟨log₅, _, b₃, log₆, rfl, h₅, h⟩ := ranWith_bind_ok.1 h
    obtain ⟨rfl, -, -⟩ := ranWith_pure.1 h
    rw [List.append_nil, ← List.append_assoc]
    exact settled_cleanup hb₂ _ h₅
  · simp at h

/-- A build that went well is deleted after it was created. -/
theorem run_settled (hs : ts.shared = true) (hts : ts.IsNamed) (hk : tb.kind ≠ ts.kind)
    (hb : HasTemplates ts tb b) (h : RanWith (run ns w) b log (.ok built) b') :
    Resource.Settled ns tb.kind tb.name (traffic log) := by
  have reads : ∀ {log : List (Event clusterInterface)},
      (∀ x ∈ traffic log, x.request.Reads) →
      Resource.Settled ns tb.kind tb.name (traffic log) := by
    intro log h
    exact followedBy_of_forall_not fun x hx => (h x hx).not_posts _ _
  obtain ⟨log₁, found, b₁, log₂, rfl, h₁, h⟩ := ranWith_bind_ok.1 (ranWith_get_bind.1 h)
  obtain ⟨h₁, rfl⟩ := ranWith_mk_liftM.1 h₁
  rw [traffic_append]
  refine (reads (sends_existingImage b₁ _ _ h₁)).append ?_
  cases found with
  | some image =>
      obtain ⟨rfl, -, -⟩ := ranWith_pure.1 h
      exact reads (List.forall_mem_nil _)
  | none =>
      obtain ⟨log₃, _, b₂, log₄, rfl, h₃, h⟩ := ranWith_bind_ok.1 h
      obtain ⟨hb₂, hx⟩ := keeps_onStream (Resource.keeps_create_shared hs) b₁ hb _ _ _ h₃
      obtain ⟨log₅, found, b₃, log₆, rfl, h₅, h⟩ := ranWith_bind_ok.1 (ranWith_get_bind.1 h)
      obtain ⟨h₅, rfl⟩ := ranWith_mk_liftM.1 h₅
      rw [traffic_append, traffic_append]
      have stream : Resource.Settled ns tb.kind tb.name (traffic log₃) :=
        Resource.settled_of_touches
          (fun x hm => Resource.Manages.touches ((hx x hm).imp_right .inl) hts) fun h => hk h.1
      refine stream.append ((reads (sends_awaitPeers _ _ _ h₅)).append ?_)
      cases found with
      | some image =>
          obtain ⟨rfl, -, -⟩ := ranWith_pure.1 h
          exact reads (List.forall_mem_nil _)
      | none => exact buildFor_settled hb₂ h

end ImageBuild
end ImageryJobs
