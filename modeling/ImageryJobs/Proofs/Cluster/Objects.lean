import ImageryJobs.Cluster.Resource
import ImageryJobs.Proofs.Cluster.Names
import ImageryJobs.Proofs.Orders
import ImageryJobs.Proofs.Traffic

/-!
What the life of one cluster object sends. Looking only reads; removing deletes the object before
all else, and then pods; creating posts the one document and may remove what stands in the way.
Work on a resource never changes its template. An object that is waited for was shown ready.
-/

namespace ImageryJobs

open ClusterScript

namespace Calling

theorem sends_send {P : Request → Prop} {request : Request} (h : P request) :
    Sends P (send request).run :=
  ClusterScript.sends_send h

theorem sends_json {P : Request → Prop} (document : Document) : Sends P (json document).run :=
  sends_pure _

theorem sends_orMissing {P : Request → Prop} {call : Calling α} (missing : α)
    (h : Sends P call.run) : Sends P (orMissing call missing).run := by
  refine sends_bind h fun result => ?_
  cases result with
  | ok value => exact sends_pure _
  | error e => dsimp only; split <;> exact sends_pure _

theorem sends_remove (path : String) : Sends (·.Deletes path) (remove path).run :=
  sends_orMissing _ (sends_run_bind (sends_send rfl) fun _ => sends_run_pure _)

theorem sends_list (collection selector : String) :
    Sends Request.Reads (list collection selector).run :=
  sends_run_bind (sends_send (Request.reads_get _)) fun _ =>
    sends_run_bind (sends_json _) fun _ => sends_run_pure _

theorem ran_remove {path : String} {log : List (Event clusterInterface)}
    {result : Except ClusterError Unit} (h : (remove path).run.Ran log result) :
    ∃ reply, traffic log = [⟨.delete path, reply⟩] := by
  obtain ⟨log₁, first, log₂, rfl, h₁, h₂⟩ := Script.ran_bind.1 h
  have hs : traffic log₂ = [] := by
    cases first with
    | ok value => rw [(Script.ran_pure.1 h₂).1]; rfl
    | error e =>
        dsimp only at h₂
        split at h₂ <;> (rw [(Script.ran_pure.1 h₂).1]; rfl)
  obtain ⟨log₃, reply, log₄, rfl, h₃, h₄⟩ := Script.ran_bind.1 h₁
  have hr : traffic log₄ = [] := by
    cases reply <;> (rw [(Script.ran_pure.1 h₄).1]; rfl)
  exact ⟨reply, by rw [traffic_append, traffic_append, hs, hr, ran_send h₃]; simp⟩

end Calling

namespace Managing

theorem ranWith_ofCall {wrap : ClusterError → ε} {call : Calling α} {r r' : Resource}
    {log : List (Event clusterInterface)} {result : Except ε α} :
    RanWith (ofCall wrap call) r log result r' ↔
      ∃ first, call.run.Ran log first ∧ result = first.mapError wrap ∧ r' = r := by
  have h : (ofCall wrap call).run.run r =
      (fun first => (first.mapError wrap, r)) <$> (call.run : ClusterScript _) := by
    simp [ofCall, liftM, monadLift, MonadLift.monadLift]
  simp only [RanWith, h, Script.ran_map, Prod.mk.injEq]

theorem keeps_ofCall {P : Request → Prop} {inv : Resource → Prop} (wrap : ClusterError → ε)
    {call : Calling α} (h : Sends P call.run) : Keeps inv P (ofCall wrap call) := by
  intro r hr log result r' h'
  obtain ⟨first, hf, -, rfl⟩ := ranWith_ofCall.1 h'
  exact ⟨hr, h _ _ hf⟩

end Managing

namespace Resource

/-- Requests that look, or take an object or some pod away. -/
def Clears (ns : String) (kind : ResourceKind) (name : String) (r : Request) : Prop :=
  r.Reads ∨ r.Deletes (kind.instancePath ns name) ∨ ∃ pod, r.Deletes (podPath ns pod)

/-- Requests that bring an object up, in place of another if need be. -/
def Manages (ns : String) (t : Template) (r : Request) : Prop :=
  r = .post (t.kind.collectionPath ns) t.document ∨ Clears ns t.kind t.name r

section

variable {ns : String} {t : Template} {r : Request} {kind kind' : ResourceKind}
  {name name' : String} {l : List Exchange}

/-- Requests that look at, create or take away an object of a name, or take away some pod. -/
def Touches (ns : String) (kind : ResourceKind) (name : String) (r : Request) : Prop :=
  r.Posts (kind.collectionPath ns) name ∨ Clears ns kind name r

theorem Clears.touches (h : Clears ns kind name r) : Touches ns kind name r := .inr h

theorem Manages.touches (h : Manages ns t r) (ht : t.IsNamed) : Touches ns t.kind t.name r :=
  h.imp_left fun h => ⟨t.document, h, ht⟩

theorem Clears.not_post (h : Clears ns kind name r) {collection : String} {document : Json} :
    r ≠ .post collection document := by
  intro heq
  subst heq
  obtain h | h | ⟨pod, h⟩ := h <;> cases h

theorem Clears.not_posts (h : Clears ns kind name r) (collection : String) :
    ¬ r.Posts collection name' :=
  fun ⟨_, heq, _⟩ => h.not_post heq

theorem Clears.named (h : Clears ns kind name r) : r.Named :=
  fun _ _ heq => absurd heq h.not_post

theorem Touches.named (h : Touches ns kind name r) : r.Named := by
  obtain ⟨document', rfl, hn⟩ | h := h
  · intro collection document heq
    injection heq with _ _ _ hd
    cases hd
    exact ⟨name, hn⟩
  · exact h.named

theorem Touches.of_posts (h : Touches ns kind name r)
    (hp : r.Posts (kind'.collectionPath ns) name') : kind' = kind ∧ name' = name := by
  obtain ⟨document, rfl, hn⟩ | h := h
  · obtain ⟨document', heq, hn'⟩ := hp
    injection heq with _ _ hc hd
    cases hd
    exact ⟨(ResourceKind.collectionPath_inj hc).symm, Option.some.inj (hn'.symm.trans hn)⟩
  · exact absurd hp (h.not_posts _)

theorem Clears.of_deletes (h : Clears ns kind name r)
    (hd : r.Deletes (kind'.instancePath ns name')) : kind' = kind ∧ name' = name := by
  obtain h | h | ⟨pod, h⟩ := h
  · exact absurd hd (h.not_deletes _)
  · exact ResourceKind.instancePath_inj (congrArg Request.path (hd.symm.trans h))
  · exact absurd (congrArg Request.path (hd.symm.trans h)) ResourceKind.instancePath_ne_podPath

theorem Touches.of_deletes (h : Touches ns kind name r)
    (hd : r.Deletes (kind'.instancePath ns name')) : kind' = kind ∧ name' = name := by
  obtain ⟨document, rfl, _⟩ | h := h
  · cases hd
  · exact h.of_deletes hd

theorem Touches.of_post (h : Touches ns kind name r) {document : Json}
    (heq : r = .post (kind'.collectionPath ns) document) : kind' = kind := by
  obtain ⟨document', hr, -⟩ | h := h
  · exact ResourceKind.collectionPath_inj (congrArg Request.path (heq.symm.trans hr))
  · exact absurd heq h.not_post

theorem Manages.of_post (h : Manages ns t r) {document : Json}
    (heq : r = .post (kind'.collectionPath ns) document) :
    kind' = t.kind ∧ document = t.document := by
  obtain hr | h := h
  · have same := heq.symm.trans hr
    exact ⟨ResourceKind.collectionPath_inj (congrArg Request.path same),
      Option.some.inj (congrArg Request.body same)⟩
  · exact absurd heq h.not_post

/-- Every creation of an object is followed by a deletion of it. -/
def Settled (ns : String) (kind : ResourceKind) (name : String) (l : List Exchange) : Prop :=
  FollowedBy (·.request.Posts (kind.collectionPath ns) name)
    (·.request.Deletes (kind.instancePath ns name)) l

theorem settled_of_touches (h : ∀ x ∈ l, Touches ns kind' name' x.request)
    (hne : ¬ (kind = kind' ∧ name = name')) : Settled ns kind name l :=
  followedBy_of_forall_not fun x hx hp => hne ((h x hx).of_posts hp)

theorem settled_of_clears (h : ∀ x ∈ l, Clears ns kind' name' x.request) :
    Settled ns kind name l :=
  followedBy_of_forall_not fun x hx => (h x hx).not_posts _

end

variable {ns : String} {t : Template} {w : Watch}

theorem keeps_findPod : Keeps (·.template = t) Request.Reads (findPod ns) := by
  refine keeps_get_bind fun r _ => ?_
  cases r.template.podSelector with
  | none => exact keeps_pure _
  | some selector =>
      refine keeps_bind (Managing.keeps_ofCall _ (Calling.sends_list _ _)) fun pods => ?_
      dsimp only
      split
      · exact keeps_bind (keeps_modify fun _ h => h) fun _ => keeps_pure _
      · exact keeps_pure _

theorem keeps_fail (e : LifecycleError) {P : Request → Prop} :
    Keeps (·.template = t) P (fail e : Managing LifecycleError α) :=
  keeps_bind (keeps_modify fun _ h => h) fun _ => keeps_throw e

theorem keeps_look : Keeps (·.template = t) Request.Reads (look ns) := by
  refine keeps_get_bind fun r _ => ?_
  refine keeps_bind (keeps_liftM (sends_send (Request.reads_get _))) fun reply => ?_
  cases reply with
  | error e => exact keeps_fail _
  | ok document =>
      refine keeps_bind (Managing.keeps_ofCall _ (Calling.sends_json _)) fun object => ?_
      refine keeps_bind (keeps_adapt _ keeps_findPod) fun pod => ?_
      cases r.template.readiness object pod with
      | ready => exact keeps_bind (keeps_modify fun _ h => h) fun _ => keeps_pure _
      | failed reason => exact keeps_bind (keeps_modify fun _ h => h) fun _ => keeps_throw _
      | pending | running => exact keeps_bind (keeps_modify fun _ h => h) fun _ => keeps_pure _

theorem keeps_waitReady : Keeps (·.template = t) Request.Reads (waitReady ns w) :=
  keeps_get_bind fun _ _ => keeps_guarded _ keeps_look (keeps_throw _) (keeps_fail _)

theorem sends_waitGone (r : Resource) : Sends Request.Reads (waitGone ns w r).run := by
  refine sends_guarded _ ?_ (sends_run_throw _) (sends_run_throw _)
  refine sends_run_bind (sends_run_liftM (sends_send (Request.reads_get _))) fun reply => ?_
  cases reply with
  | ok _ => exact sends_run_pure _
  | error e =>
      dsimp only
      split
      · exact sends_run_pure _
      · exact sends_run_throw _

theorem sends_removeAll (r : Resource) : Sends (Clears ns r.kind r.name) (removeAll ns r).run := by
  refine sends_run_bind ((Calling.sends_remove _).mono fun _ h => .inr (.inl h)) fun _ => ?_
  cases r.template.podSelector with
  | none => exact sends_run_pure _
  | some selector =>
      refine sends_run_bind ((Calling.sends_list _ _).mono fun _ h => .inl h) fun pods => ?_
      exact sends_run_forM _ fun pod =>
        (Calling.sends_remove _).mono fun _ h => .inr (.inr ⟨pod, h⟩)

theorem keeps_replace : Keeps (·.template = t) (Manages ns t) (replace ns w) := by
  refine keeps_get_bind fun r hr => ?_
  subst hr
  refine keeps_bind (Managing.keeps_ofCall _ ((sends_removeAll r).mono fun _ h => .inr h))
    fun _ => ?_
  refine keeps_bind (keeps_mk_liftM ((sends_waitGone r).mono fun _ h => .inr (.inl h)))
    fun _ => ?_
  refine keeps_bind (keeps_liftM (sends_send (.inl rfl))) fun reply => ?_
  cases reply with
  | ok _ => exact keeps_pure _
  | error e => exact keeps_fail _

theorem keeps_submit : Keeps (·.template = t) (Manages ns t) (submit ns w) := by
  refine keeps_get_bind fun r hr => ?_
  subst hr
  refine keeps_bind (keeps_liftM (sends_send (.inl rfl))) fun reply => ?_
  cases reply with
  | ok _ => exact keeps_pure _
  | error e =>
      dsimp only
      split
      · exact keeps_fail _
      · split
        · exact keeps_pure _
        · exact keeps_replace

theorem keeps_create (watch : Bool) :
    Keeps (·.template = t) (Manages ns t) (create ns watch w) := by
  refine keeps_bind keeps_submit fun _ => ?_
  refine keeps_bind (keeps_modify fun _ h => h) fun _ => ?_
  split
  · exact keeps_bind (keeps_waitReady.mono fun _ h => .inr (.inl h)) fun _ => keeps_pure _
  · exact keeps_pure _

/-- A shared object is never taken away. -/
theorem keeps_create_shared (hs : t.shared = true) {watch : Bool} :
    Keeps (·.template = t) (fun r => r = .post (t.kind.collectionPath ns) t.document ∨ r.Reads)
      (create ns watch w) := by
  refine keeps_bind (keeps_get_bind fun r hr => ?_) fun _ => ?_
  · subst hr
    refine keeps_bind (keeps_liftM (sends_send (.inl rfl))) fun reply => ?_
    cases reply with
    | ok _ => exact keeps_pure _
    | error e =>
        dsimp only
        rw [if_pos hs]
        split
        · exact keeps_fail _
        · exact keeps_pure _
  · refine keeps_bind (keeps_modify fun _ h => h) fun _ => ?_
    split
    · exact keeps_bind (keeps_waitReady.mono fun _ h => .inr h) fun _ => keeps_pure _
    · exact keeps_pure _

theorem keeps_delete : Keeps (·.template = t) (Clears ns t.kind t.name) (delete ns) := by
  refine keeps_get_bind fun r hr => ?_
  subst hr
  exact keeps_bind (Managing.keeps_ofCall _ (sends_removeAll r)) fun _ => keeps_modify fun _ h => h

theorem sends_fetch (r : Resource) : Sends Request.Reads (fetch ns r).run :=
  Calling.sends_orMissing _ <| sends_run_bind (Calling.sends_send (Request.reads_get _)) fun _ =>
    sends_run_bind (Calling.sends_json _) fun _ => sends_run_pure _

theorem keeps_logs : Keeps (·.template = t) Request.Reads (logs ns) := by
  have read (pod : String) : Keeps (·.template = t) Request.Reads
      (Managing.ofCall id <| Calling.orMissing (do
        let document ← Calling.send (.get (podLogPath ns pod))
        return some document.toText) none : Managing ClusterError (Option String)) := by
    refine Managing.keeps_ofCall _ (Calling.sends_orMissing _ ?_)
    exact sends_run_bind (Calling.sends_send (Request.reads_get _)) fun _ => sends_run_pure _
  refine keeps_get_bind fun r _ => ?_
  dsimp only
  split
  on_goal 1 => refine keeps_bind keeps_findPod fun _ => ?_
  -- Both ways end in reading the log of the pod that is known then.
  all_goals
    refine keeps_get_bind fun r _ => ?_
    cases r.pod with
    | none => exact keeps_pure _
    | some pod => exact read pod

theorem sends_metrics (series : List String) (r : Resource) :
    Sends Request.Reads (metrics series r).run := by
  unfold metrics
  cases r.pod with
  | none => exact sends_run_pure _
  | some pod =>
      refine sends_run_foldlM _ (fun found name => ?_) _
      refine sends_run_bind (Calling.sends_send rfl) fun _ => ?_
      exact sends_run_bind (Calling.sends_json _) fun _ => sends_run_pure _

theorem ran_removeAll {r : Resource} {log : List (Event clusterInterface)}
    {result : Except ClusterError Unit} (h : (removeAll ns r).run.Ran log result) :
    ∃ reply rest, traffic log = ⟨.delete (r.path ns), reply⟩ :: rest := by
  obtain ⟨log₁, _, log₂, rfl, h₁, -⟩ := Script.ran_bind.1 h
  obtain ⟨reply, h₁⟩ := Calling.ran_remove h₁
  exact ⟨reply, traffic log₂, by rw [traffic_append, h₁]; rfl⟩

theorem delete_sends_first {r r' : Resource} {log : List (Event clusterInterface)}
    {result : Except LifecycleError Unit} (h : RanWith (delete ns) r log result r') :
    ∃ reply rest, traffic log = ⟨.delete (r.path ns), reply⟩ :: rest := by
  obtain ⟨e, h, -⟩ | ⟨log₁, _, r₁, log₂, rfl, h, -⟩ := ranWith_bind.1 (ranWith_get_bind.1 h)
  · obtain ⟨_, h, -⟩ := Managing.ranWith_ofCall.1 h
    exact ran_removeAll h
  · obtain ⟨_, h, -⟩ := Managing.ranWith_ofCall.1 h
    obtain ⟨reply, rest, h⟩ := ran_removeAll h
    exact ⟨reply, rest ++ traffic log₂, by rw [traffic_append, h]; rfl⟩

theorem delete_deletes {r r' : Resource} (ht : r.template = t)
    {log : List (Event clusterInterface)} {result : Except LifecycleError Unit}
    (h : RanWith (delete ns) r log result r') :
    ∃ x ∈ traffic log, x.request.Deletes (t.kind.instancePath ns t.name) := by
  obtain ⟨reply, rest, h⟩ := delete_sends_first h
  subst ht
  refine ⟨⟨.delete (r.path ns), reply⟩, ?_, rfl⟩
  simp [h]

theorem submit_posts {r r' : Resource} {log : List (Event clusterInterface)}
    {result : Except LifecycleError Unit} (h : RanWith (submit ns w) r log result r') :
    ∃ x ∈ traffic log, x.request = .post (r.kind.collectionPath ns) r.template.document := by
  obtain ⟨log₁, reply, log₂, rfl, h₁, -⟩ := ranWith_liftM_bind.1 (ranWith_get_bind.1 h)
  refine ⟨⟨_, reply⟩, ?_, rfl⟩
  rw [traffic_append, ran_send h₁]
  exact .head _

/-- Whatever comes of it, the document was sent. -/
theorem create_posts {watch : Bool} {r r' : Resource} {log : List (Event clusterInterface)}
    {result : Except LifecycleError Unit} (h : RanWith (create ns watch w) r log result r') :
    ∃ x ∈ traffic log, x.request = .post (r.kind.collectionPath ns) r.template.document := by
  obtain ⟨_, h, -⟩ | ⟨log₁, _, _, log₂, rfl, h, -⟩ := ranWith_bind.1 h
  · exact submit_posts h
  · obtain ⟨x, hx, posted⟩ := submit_posts h
    exact ⟨x, by simp [hx], posted⟩

/-- A look at an object shows it ready. -/
def ShowsReady (ns : String) (t : Template) : Exchange → Prop :=
  Exchange.Shows (t.kind.instancePath ns t.name) fun object =>
    ∃ pod, t.readiness object pod = .ready

theorem look_showsReady {r r' : Resource} {log : List (Event clusterInterface)} {object : Json}
    (h : RanWith (look ns) r log (.ok (some object)) r') :
    Since (·.request.Reads) (ShowsReady ns r.template) (traffic log) := by
  have reads := (keeps_look r rfl _ _ _ h).2
  obtain ⟨log₁, reply, log₂, rfl, h₁, h₂⟩ := ranWith_liftM_bind.1 (ranWith_get_bind.1 h)
  rw [traffic_append, ran_send h₁] at reads ⊢
  cases reply with
  | error e => simp [fail, ranWith_bind_ok] at h₂
  | ok document =>
      obtain ⟨log₃, seen, _, log₄, rfl, h₃, h₄⟩ := ranWith_bind_ok.1 h₂
      obtain ⟨_, hj, hv, -⟩ := Managing.ranWith_ofCall.1 h₃
      obtain ⟨log₅, pod, r₁, log₆, rfl, -, h₆⟩ := ranWith_bind_ok.1 h₄
      refine ⟨[], ⟨.get (r.path ns), .ok document⟩, _, rfl, ⟨rfl, document, seen, rfl, ?_, pod, ?_⟩,
        fun y hy => reads y (List.mem_cons_of_mem _ hy)⟩
      · obtain ⟨-, rfl⟩ := Script.ran_pure.1 hj
        cases hd : document.toJson with
        | ok value => rw [hd] at hv; cases hv; rfl
        | error e => rw [hd] at hv; cases hv
      · cases hr : r.template.readiness seen pod with
        | ready => rfl
        | failed reason | pending | running =>
            rw [hr] at h₆
            dsimp only at h₆
            rw [ranWith_modify_bind] at h₆
            simp at h₆

theorem waitReady_showsReady {r r' : Resource} {log : List (Event clusterInterface)}
    {object : Json} (h : RanWith (waitReady ns w) r log (.ok object) r') :
    Since (·.request.Reads) (ShowsReady ns r.template) (traffic log) := by
  obtain ⟨log₁, r₁, log₂, rfl, ht, h⟩ := ranWith_guarded_ok
    (keeps_look : Keeps (·.template = r.template) _ _) (by simp) (by simp [fail, ranWith_bind_ok])
    rfl (ranWith_get_bind.1 h)
  rw [traffic_append, ← ht]
  exact (look_showsReady h).append_left

theorem create_showsReady {r r' : Resource} {log : List (Event clusterInterface)}
    (h : RanWith (create ns true w) r log (.ok ()) r') :
    Since (·.request.Reads) (ShowsReady ns r.template) (traffic log) := by
  obtain ⟨log₁, _, r₁, log₂, rfl, h₁, h₂⟩ := ranWith_bind_ok.1 h
  have ht : r₁.template = r.template := (keeps_submit r rfl _ _ _ h₁).1
  obtain ⟨log₃, _, r₂, log₄, rfl, h₃, h₄⟩ := ranWith_bind_ok.1 h₂
  obtain ⟨rfl, -, rfl⟩ := ranWith_modify.1 h₃
  obtain ⟨log₅, object, r₃, log₆, rfl, h₅, h₆⟩ := ranWith_bind_ok.1 h₄
  obtain ⟨rfl, -, -⟩ := ranWith_pure.1 h₆
  rw [traffic_append, List.nil_append, List.append_nil, ← ht]
  exact (waitReady_showsReady h₅).append_left

end Resource
end ImageryJobs
