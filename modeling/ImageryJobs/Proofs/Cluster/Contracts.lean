import ImageryJobs.Cluster.Resource
import ImageryJobs.Proofs.Watching

/-!
Contracts of cluster calls, under any rules. A call asks one thing and reads the answer; what a
look tells is a function of the answers about the object and about its pods. The work on one object
is described by what is known between its requests, so that the same laws serve counts of requests,
histories and states of a cluster.
-/

namespace ImageryJobs

open ClusterScript

variable {σ α ε : Type} {R : Rules clusterInterface σ} {x : σ}

/-! ### Single requests -/

namespace Calling

/-- The objects in the answer to a listing. -/
def listed (reply : Reply) : Except ClusterError (List Json) := do
  let value ← (← reply).toJson
  return ((value.get? "items").bind Json.items?).getD []

variable {ok : α → σ → Prop} {error : ClusterError → σ → Prop}

theorem meetsOr_send {request : Request} {ok : Document → σ → Prop} :
    MeetsOr R (send request) x ok error ↔ R.allows x (.send request) ∧
      ∀ (reply : Reply) x', R.moves x ⟨.send request, reply⟩ x' → Ending ok error reply x' := .rfl

@[simp] theorem meetsOr_json {document : Document} {ok : Json → σ → Prop} :
    MeetsOr R (json document) x ok error ↔ Ending ok error document.toJson x := .rfl

theorem meetsOr_orMissing {call : Calling α} {missing : α} :
    MeetsOr R (orMissing call missing) x ok error ↔
      MeetsOr R call x ok fun e x => if e.isNotFound then ok missing x else error e x := by
  rw [orMissing, MeetsOr, MeetsOr]
  change Script.Meets R (call.run >>= _) x _ ↔ _
  rw [Script.meets_bind]
  constructor <;>
    · refine fun h => Script.Meets.mono h fun result x hr => ?_
      cases result with
      | ok value => exact hr
      | error e => cases hn : e.isNotFound <;> simpa [hn, Ending] using hr

/-- After the answer to a deletion nothing is there. -/
def isGone : Reply → Bool
  | .ok _ => true
  | .error e => e.isNotFound

theorem meetsOr_remove {path : String} {before gone broken : σ → Prop}
    (h : R.Step before (.send (.delete path)) fun (reply : Reply) x =>
      if isGone reply then gone x else broken x) (hx : before x) :
    MeetsOr R (remove path) x (fun _ => gone) fun _ => broken := by
  rw [remove, meetsOr_orMissing, meetsOr_bind, meetsOr_send]
  obtain ⟨allowed, step⟩ := h x hx
  refine ⟨allowed, fun reply x' moved => ?_⟩
  have removed := step reply x' moved
  cases reply with
  | ok document => exact removed
  | error e => cases hn : e.isNotFound <;> simpa [Ending, isGone, hn] using removed

theorem meetsOr_list {collection selector : String} {ok : List Json → σ → Prop} :
    MeetsOr R (list collection selector) x ok error ↔
      R.allows x (.send (.get (listPath collection selector))) ∧
      ∀ (reply : Reply) x', R.moves x ⟨.send (.get (listPath collection selector)), reply⟩ x' →
        Ending ok error (listed reply) x' := by
  rw [list, meetsOr_bind, meetsOr_send]
  refine and_congr_right fun _ => forall₃_congr fun reply x' _ => ?_
  cases reply with
  | error e => rfl
  | ok document =>
      simp only [Ending, meetsOr_bind, meetsOr_json, meetsOr_pure]
      change _ ↔ Ending ok error (document.toJson.bind _) x'
      cases document.toJson <;> rfl

end Calling

theorem Managing.meetsWith_ofCall {wrap : ClusterError → ε} {call : Calling α} {r : Resource}
    {ok : α → Resource → σ → Prop} {error : ε → Resource → σ → Prop} :
    MeetsWith R (ofCall wrap call) r x ok error ↔
      MeetsOr R call x (fun value => ok value r) fun e => error (wrap e) r := by
  have h : (ofCall wrap call).run.run r =
      (fun result => (result.mapError wrap, r)) <$> (call.run : ClusterScript _) := by
    simp [ofCall, liftM, monadLift, MonadLift.monadLift]
  rw [MeetsWith, h, Script.meets_map]
  constructor <;>
    · refine fun h => Script.Meets.mono h fun result x hr => ?_
      cases result with
      | ok value => exact hr
      | error e => exact hr

/-! ### Looking -/

/-- The first pod in the answer to a listing, if there was one. -/
def firstPod : Option Reply → Except ClusterError (Option Json)
  | none => .ok none
  | some reply => (Calling.listed reply).map List.head?

/-- The answers to one look: about the object, and about its pods if they were asked for. -/
structure Poll where
  object : Reply
  pods : Option Reply

namespace Template

/-- What the answers about an object and its pods tell: the object, and how far it is. -/
def judge (t : Template) (reply : Reply) (pods : Option Reply) :
    Except ClusterError (Json × Readiness) := do
  let object ← (← reply).toJson
  return (object, t.readiness object (← firstPod pods))

theorem judge_ok {t : Template} {reply : Reply} {pods : Option Reply} {object : Json}
    {verdict : Readiness} (h : t.judge reply pods = .ok (object, verdict)) :
    ∃ document found, reply = .ok document ∧ document.toJson = .ok object ∧
      firstPod pods = .ok found ∧ t.readiness object found = verdict := by
  unfold judge at h
  cases reply with
  | error e => cases h
  | ok document =>
      cases hd : document.toJson with
      | error e => simp [hd, bind, Except.bind] at h
      | ok object' =>
          cases hp : firstPod pods with
          | error e => simp [hd, hp, bind, Except.bind] at h
          | ok found =>
              simp only [hd, hp, bind, Except.bind, pure, Except.pure, Except.ok.injEq,
                Prod.mk.injEq] at h
              exact ⟨document, found, rfl, hd.trans (congrArg _ h.1), rfl, h.1 ▸ h.2⟩

/-- The pods were asked for if there may be some and the object could be read. -/
def Asked (t : Template) (p : Poll) : Prop :=
  p.pods.isSome = true ↔
    t.podSelector.isSome = true ∧ ∃ object, p.object.bind Document.toJson = .ok object

/-- What a look decides: on the object if it is ready, or that the wait for it fails. -/
def verdict (t : Template) (p : Poll) : Option (Except LifecycleError Json) :=
  match t.judge p.object p.pods with
  | .error e => some (.error (.cluster e))
  | .ok (object, .ready) => some (.ok object)
  | .ok (_, .failed reason) => some (.error (.failed t.kind t.name reason))
  | .ok (_, .pending) | .ok (_, .running) => none

/-- How far the object counts as having come after a look. Where the object was found but it or its
pods cannot be read, nothing is noted. -/
def statusAfter (t : Template) (p : Poll) (before : ResourceStatus) : ResourceStatus :=
  match p.object, t.judge p.object p.pods with
  | .error _, _ => .error
  | .ok _, .error _ => before
  | .ok _, .ok (_, .ready) => .finished
  | .ok _, .ok (_, .failed _) => .error
  | .ok _, .ok (_, .pending) => .pending
  | .ok _, .ok (_, .running) => .running

/-- What a look for an object that should go decides: it is gone, or the wait for it fails. -/
def goneVerdict : Reply → Option (Except LifecycleError Unit)
  | .ok _ => none
  | .error e => some (if e.isNotFound then .ok () else .error (.cluster e))

theorem isSome_pods {t : Template} {p : Poll} {object : Json} {readiness : Readiness}
    (asked : t.Asked p) (judged : t.judge p.object p.pods = .ok (object, readiness)) :
    p.pods.isSome = t.podSelector.isSome := by
  obtain ⟨document, found, hr, hd, -⟩ := judge_ok judged
  have readable : ∃ object, p.object.bind Document.toJson = .ok object := ⟨object, by rw [hr]; exact hd⟩
  rw [Bool.eq_iff_iff]
  exact ⟨fun h => (asked.1 h).1, fun h => asked.2 ⟨h, readable⟩⟩

theorem verdict_eq_ok {t : Template} {p : Poll} {object : Json} :
    t.verdict p = some (.ok object) ↔ t.judge p.object p.pods = .ok (object, .ready) := by
  unfold verdict
  split <;> simp_all

theorem verdict_eq_none {t : Template} {p : Poll} : t.verdict p = none ↔
    ∃ object readiness, t.judge p.object p.pods = .ok (object, readiness) ∧
      (readiness = .pending ∨ readiness = .running) := by
  unfold verdict
  split <;> simp_all

theorem verdict_of_failed {t : Template} {p : Poll} {object : Json} {reason : String}
    (h : t.judge p.object p.pods = .ok (object, .failed reason)) :
    t.verdict p = some (.error (.failed t.kind t.name reason)) := by
  rw [verdict, h]

theorem failed_of_verdict {t : Template} {p : Poll} {e : LifecycleError}
    (h : t.verdict p = some (.error e)) (object : Json) (readiness : Readiness)
    (judged : t.judge p.object p.pods = .ok (object, readiness)) :
    ∃ reason, readiness = .failed reason := by
  unfold verdict at h
  rw [judged] at h
  cases readiness with
  | failed reason => exact ⟨reason, rfl⟩
  | ready | pending | running => cases h

variable (t : Template) (seen : Reply → Option Reply → σ → Prop)

/-- The answers to a whole look told this. -/
def Tells (object : Json) (verdict : Readiness) (x : σ) : Prop :=
  ∃ reply pods, seen reply pods x ∧ pods.isSome = t.podSelector.isSome ∧
    t.judge reply pods = .ok (object, verdict)

/-- Answers could not be read, or told of a failure. -/
def Breaks (x : σ) : Prop :=
  ∃ reply pods, seen reply pods x ∧ ∀ object verdict, t.judge reply pods = .ok (object, verdict) →
    ∃ reason, verdict = .failed reason

/-- The answers to a look decided this. -/
def Decides (result : Except LifecycleError Json) (x : σ) : Prop :=
  ∃ p, t.Asked p ∧ seen p.object p.pods x ∧ t.verdict p = some result

variable {t seen} {p : Poll} {object : Json}

theorem tells_of_verdict (asked : t.Asked p) (hp : seen p.object p.pods x)
    (h : t.verdict p = some (.ok object)) : t.Tells seen object .ready x := by
  have judged := verdict_eq_ok.1 h
  exact ⟨_, _, hp, isSome_pods asked judged, judged⟩

theorem tells_of_verdict_none (asked : t.Asked p) (hp : seen p.object p.pods x)
    (h : t.verdict p = none) :
    ∃ object readiness, t.Tells seen object readiness x ∧
      (readiness = .pending ∨ readiness = .running) := by
  obtain ⟨object, readiness, judged, waits⟩ := verdict_eq_none.1 h
  exact ⟨object, readiness, ⟨_, _, hp, isSome_pods asked judged, judged⟩, waits⟩

end Template

/-- What is known when a look is due and after its answers. -/
structure Looking (R : Rules clusterInterface σ) (ns : String) (t : Template) (due : σ → Prop)
    (seen : Reply → Option Reply → σ → Prop) : Prop where
  get : R.Step due (.send (.get (t.kind.instancePath ns t.name))) fun reply => seen reply none
  pods : ∀ reply selector, t.podSelector = some selector →
    R.Step (seen reply none) (.send (.get (listPath (podsPath ns) selector)))
      fun pods => seen reply (some pods)

/-- What is known after so many looks: while the next one is waited for, when it is due, after its
answers, and once the work is cancelled. -/
structure Watching (R : Rules clusterInterface σ) (ns : String) (t : Template)
    (waiting due : Nat → σ → Prop) (seen : Nat → Reply → Option Reply → σ → Prop)
    (stopped : σ → Prop) : Prop where
  pause : ∀ k span, R.Step (waiting k) (.pause span) fun (tripped : Bool) x =>
    if tripped then stopped x else due k x
  look : ∀ k, Looking R ns t (due k) (seen k)
  again : ∀ k object verdict x, t.Tells (seen k) object verdict x →
    verdict = .pending ∨ verdict = .running → waiting (k + 1) x

namespace Resource

variable {ns : String} {t : Template} {r : Resource}

theorem meetsWith_findPod (seen : Option Reply → σ → Prop)
    (hpods : ∀ selector, t.podSelector = some selector →
      R.Step (seen none) (.send (.get (listPath (podsPath ns) selector)))
        fun pods => seen (some pods))
    (ht : r.template = t) (hx : seen none x) :
    MeetsWith R (findPod ns) r x
      (fun found r' x' => (r'.template = t ∧ r'.status = r.status) ∧ ∃ pods, seen pods x' ∧
        pods.isSome = t.podSelector.isSome ∧ firstPod pods = .ok found)
      (fun e r' x' => (r'.template = t ∧ r'.status = r.status) ∧ ∃ pods, seen pods x' ∧
        pods.isSome = t.podSelector.isSome ∧ firstPod pods = .error e) := by
  rw [findPod, meetsWith_get_bind, ht]
  cases hs : t.podSelector with
  | none => exact ⟨⟨ht, rfl⟩, none, hx, rfl, rfl⟩
  | some selector =>
      dsimp only
      rw [meetsWith_bind, Managing.meetsWith_ofCall, Calling.meetsOr_list]
      obtain ⟨allowed, step⟩ := hpods selector hs x hx
      refine ⟨allowed, fun reply x' moved => ?_⟩
      have answered := step reply x' moved
      cases hl : Calling.listed reply with
      | error e => exact ⟨⟨ht, rfl⟩, some reply, answered, rfl, by simp [firstPod, hl, Except.map]⟩
      | ok items =>
          have first : firstPod (some reply) = .ok items.head? := by simp [firstPod, hl, Except.map]
          simp only [Ending]
          split
          · rw [meetsWith_modify_bind]
            exact ⟨⟨ht, rfl⟩, some reply, answered, rfl, first⟩
          · exact ⟨⟨ht, rfl⟩, some reply, answered, rfl, first⟩

/-- A look ends with the verdict on its answers and notes how far the object is. -/
theorem meetsWith_look_status {due : σ → Prop} {seen : Reply → Option Reply → σ → Prop}
    (h : Looking R ns t due seen) (ht : r.template = t) (hx : due x) :
    MeetsWith R (look ns) r x
      (fun found r' x' => r'.template = t ∧ (∀ object, found = some object → r'.observed = some object) ∧
        ∃ p, t.Asked p ∧ seen p.object p.pods x' ∧ t.verdict p = found.map .ok ∧
          r'.status = t.statusAfter p r.status)
      (fun e r' x' => r'.template = t ∧
        ∃ p, t.Asked p ∧ seen p.object p.pods x' ∧ t.verdict p = some (.error e) ∧
          r'.status = t.statusAfter p r.status) := by
  rw [look, meetsWith_get_bind, meetsWith_bind, meetsWith_liftM]
  have path : r.path ns = t.kind.instancePath ns t.name := by rw [← ht]; rfl
  rw [path]
  obtain ⟨allowed, step⟩ := h.get x hx
  refine ⟨allowed, fun reply x' moved => ?_⟩
  have answered := step reply x' moved
  cases reply with
  | error e =>
      refine ⟨ht, ⟨.error e, none⟩, ?_, answered, rfl, rfl⟩
      simp [Template.Asked, Except.bind]
  | ok document =>
      rw [Script.meets_done]
      dsimp only
      rw [meetsWith_bind, Managing.meetsWith_ofCall, Calling.meetsOr_json]
      cases hd : document.toJson with
      | error e =>
          refine ⟨ht, ⟨.ok document, none⟩, ?_, answered, ?_, ?_⟩
          · simp [Template.Asked, Except.bind, hd]
          · simp [Template.verdict, Template.judge, hd, bind, Except.bind]
          · simp [Template.statusAfter, Template.judge, hd, bind, Except.bind]
      | ok object =>
          simp only [Ending]
          rw [meetsWith_bind, meetsWith_adapt, ht]
          have asked {pods : Option Reply} (hsome : pods.isSome = t.podSelector.isSome) :
              t.Asked ⟨.ok document, pods⟩ := by
            simp [Template.Asked, Except.bind, hd, hsome]
          refine (meetsWith_findPod (seen (.ok document)) (h.pods _) ht answered).mono ?_ ?_
          · intro found r' x'' ⟨⟨ht', hstatus⟩, pods, hpods, hsome, hfirst⟩
            have judged : t.judge (.ok document) pods = .ok (object, t.readiness object found) := by
              simp [Template.judge, hd, hfirst, bind, Except.bind, pure, Except.pure]
            cases hv : t.readiness object found with
            | ready =>
                rw [hv] at judged
                refine ⟨ht', fun _ h => h ▸ rfl, _, asked hsome, hpods,
                  Template.verdict_eq_ok.2 judged, ?_⟩
                simp [Template.statusAfter, judged]
            | failed reason =>
                rw [hv] at judged
                refine ⟨ht', _, asked hsome, hpods, ?_, ?_⟩
                · rw [Template.verdict_of_failed judged, ← ht]
                  rfl
                · simp [Template.statusAfter, judged]
            | pending | running =>
                rw [hv] at judged
                refine ⟨ht', nofun, _, asked hsome, hpods, ?_, ?_⟩
                · exact Template.verdict_eq_none.2 ⟨object, _, judged, by simp⟩
                · simp [Template.statusAfter, judged, withStatus]
          · intro e r' x'' ⟨⟨ht', hstatus⟩, pods, hpods, hsome, hfirst⟩
            refine ⟨ht', ⟨.ok document, pods⟩, asked hsome, hpods, ?_, ?_⟩
            · simp [Template.verdict, Template.judge, hd, hfirst, bind, Except.bind]
            · simp [Template.statusAfter, Template.judge, hd, hfirst, bind, Except.bind, hstatus]

/-- A look ends with the verdict on its answers. -/
theorem meetsWith_look_verdict {due : σ → Prop} {seen : Reply → Option Reply → σ → Prop}
    (h : Looking R ns t due seen) (ht : r.template = t) (hx : due x) :
    MeetsWith R (look ns) r x
      (fun found r' x' => r'.template = t ∧ (∀ object, found = some object → r'.observed = some object) ∧
        ∃ p, t.Asked p ∧ seen p.object p.pods x' ∧ t.verdict p = found.map .ok)
      (fun e r' x' => r'.template = t ∧
        ∃ p, t.Asked p ∧ seen p.object p.pods x' ∧ t.verdict p = some (.error e)) := by
  refine (meetsWith_look_status h ht hx).mono ?_ ?_
  · exact fun _ _ _ ⟨ht', observed, p, asked, hp, verdict, _⟩ => ⟨ht', observed, p, asked, hp, verdict⟩
  · exact fun _ _ _ ⟨ht', p, asked, hp, verdict, _⟩ => ⟨ht', p, asked, hp, verdict⟩

/-- A look decides what the answers tell. -/
theorem meetsWith_look {due : σ → Prop} {seen : Reply → Option Reply → σ → Prop}
    (h : Looking R ns t due seen) (ht : r.template = t) (hx : due x) :
    MeetsWith R (look ns) r x
      (fun found r' x' => r'.template = t ∧
        match found with
        | some object => t.Tells seen object .ready x' ∧ r'.observed = some object
        | none => ∃ object verdict, t.Tells seen object verdict x' ∧
            (verdict = .pending ∨ verdict = .running))
      (fun _ r' x' => r'.template = t ∧ t.Breaks seen x') := by
  refine (meetsWith_look_verdict h ht hx).mono (fun found r' x' hfound => ?_) fun e r' x' failed => ?_
  · obtain ⟨ht', observed, p, asked, hp, verdict⟩ := hfound
    cases found with
    | some object => exact ⟨ht', Template.tells_of_verdict asked hp verdict, observed object rfl⟩
    | none => exact ⟨ht', Template.tells_of_verdict_none asked hp verdict⟩
  · obtain ⟨ht', p, -, hp, verdict⟩ := failed
    exact ⟨ht', _, _, hp, Template.failed_of_verdict verdict⟩

variable {waiting due : Nat → σ → Prop} {seen : Nat → Reply → Option Reply → σ → Prop}
  {stopped : σ → Prop} {w : Watch}

/-- A wait ends with the verdict on the last look, or because the work is cancelled or no time is
left. -/
theorem meetsWith_waitReady_verdict (h : Watching R ns t waiting due seen stopped)
    (ht : r.template = t) (hx : waiting 0 x) :
    MeetsWith R (waitReady ns w) r x
      (fun object r' x' => r'.template = t ∧ r'.observed = some object ∧
        ∃ k, t.Decides (seen k) (.ok object) x')
      (fun e r' x' => r'.template = t ∧ (e = .cancelled t.kind t.name ∧ stopped x' ∨
        (e = .watchTimeout t.kind t.name w.timeout ∧
          ∃ k, due k x' ∧ Watch.Spent w.interval w.timeout k) ∨
        ∃ k, t.Decides (seen k) (.error e) x')) := by
  subst ht
  rw [waitReady, meetsWith_get_bind]
  let Q (object : Json) (s : Resource × σ) : Prop := s.1.template = r.template ∧
    s.1.observed = some object ∧ ∃ k, r.template.Decides (seen k) (.ok object) s.2
  let E (e : LifecycleError) (r' : Resource) (x : σ) : Prop := r'.template = r.template ∧
    (e = .cancelled r.kind r.name ∧ stopped x ∨ (e = .watchTimeout r.kind r.name w.timeout ∧
      ∃ k, due k x ∧ Watch.Spent w.interval w.timeout k) ∨
      ∃ k, r.template.Decides (seen k) (.error e) x)
  refine Watch.meets_guarded (C := .stateful R E)
    (W := fun k s => s.1.template = r.template ∧ waiting k s.2)
    (D := fun k s => s.1.template = r.template ∧ due k s.2) (Q := Q) ?_ ?_ ?_ (s := (r, x)) ⟨rfl, hx⟩
  · intro k s ⟨hs, hdue⟩
    refine Calculus.meets_stateful.2 ((meetsWith_look_verdict (h.look k) hs hdue).mono ?_ ?_)
    · intro found r' x' ⟨ht', observed, p, asked, hp, verdict⟩
      cases found with
      | some object => exact ⟨ht', observed object rfl, k, p, asked, hp, verdict⟩
      | none =>
          obtain ⟨object, readiness, tells, waits⟩ := Template.tells_of_verdict_none asked hp verdict
          exact ⟨ht', h.again k object readiness x' tells waits⟩
    · exact fun _ r' x' ⟨ht', decides⟩ => ⟨ht', .inr (.inr ⟨k, decides⟩)⟩
  · intro k span s ⟨hs, hwait⟩
    refine Calculus.meets_stateful.2 (meetsWith_liftM.2 ?_)
    obtain ⟨allowed, step⟩ := h.pause k span s.2 hwait
    refine ⟨allowed, fun tripped x' moved => ?_⟩
    have paused := step tripped x' moved
    cases tripped with
    | true => exact ⟨hs, .inl ⟨rfl, paused⟩⟩
    | false => exact ⟨hs, paused⟩
  · intro k s ⟨hs, hdue⟩ spent
    exact ⟨hs, .inr (.inl ⟨rfl, k, hdue, spent⟩)⟩

/-- A wait ends with an object that a look told to be ready, or because the work is cancelled, no
time is left or a look broke. -/
theorem meetsWith_waitReady (h : Watching R ns t waiting due seen stopped) (ht : r.template = t)
    (hx : waiting 0 x) :
    MeetsWith R (waitReady ns w) r x
      (fun object r' x' => r'.template = t ∧ r'.observed = some object ∧
        ∃ k, t.Tells (seen k) object .ready x')
      (fun _ r' x' => r'.template = t ∧ (stopped x' ∨
        (∃ k, due k x' ∧ Watch.Spent w.interval w.timeout k) ∨ ∃ k, t.Breaks (seen k) x')) := by
  refine (meetsWith_waitReady_verdict h ht hx).mono (fun object r' x' hready => ?_)
    fun e r' x' failed => ?_
  · obtain ⟨ht', observed, k, p, asked, hp, verdict⟩ := hready
    exact ⟨ht', observed, k, Template.tells_of_verdict asked hp verdict⟩
  · obtain ⟨ht', ⟨-, stopped⟩ | ⟨-, spent⟩ | ⟨k, p, -, hp, verdict⟩⟩ := failed
    · exact ⟨ht', .inl stopped⟩
    · exact ⟨ht', .inr (.inl spent)⟩
    · exact ⟨ht', .inr (.inr ⟨k, _, _, hp, Template.failed_of_verdict verdict⟩)⟩

/-! ### Removing -/

/-- What is known before an object is removed, after the answer to its deletion, and while its pods
are removed. -/
structure Removing (R : Rules clusterInterface σ) (ns : String) (t : Template)
    (before broken : σ → Prop) (gone : Option Reply → σ → Prop) : Prop where
  object : R.Step before (.send (.delete (t.kind.instancePath ns t.name))) fun (reply : Reply) x =>
    if Calling.isGone reply then gone none x else broken x
  list : ∀ selector, t.podSelector = some selector →
    R.Step (gone none) (.send (.get (listPath (podsPath ns) selector)))
      fun pods => gone (some pods)
  pod : ∀ selector pods items name, t.podSelector = some selector →
    Calling.listed pods = .ok items → name ∈ items.filterMap Template.nameOf →
    R.Preserves (gone (some pods)) (.send (.delete (podPath ns name)))

section Removing

variable {before broken : σ → Prop} {gone : Option Reply → σ → Prop}

/-- The object is gone, but not all of its pods could be found and removed. -/
def Remaining (gone : Option Reply → σ → Prop) (x : σ) : Prop :=
  ∃ pods, gone (some pods) x ∧ Calling.listed pods ≠ .ok []

theorem meetsOr_removeAll (h : Removing R ns t before broken gone) (ht : r.template = t)
    (hx : before x) :
    MeetsOr R (removeAll ns r) x (fun _ x' => ∃ pods, gone pods x')
      (fun _ x' => broken x' ∨ Remaining gone x') := by
  subst ht
  refine meetsOr_bind.2 ((Calling.meetsOr_remove h.object hx).mono (fun _ x hx => ?_)
    fun _ x hx => .inl hx)
  cases hs : r.template.podSelector with
  | none => exact ⟨none, hx⟩
  | some selector =>
      refine meetsOr_bind.2 (Calling.meetsOr_list.2 ?_)
      obtain ⟨allowed, step⟩ := h.list selector hs x hx
      refine ⟨allowed, fun pods x' moved => ?_⟩
      have listing := step pods x' moved
      cases hl : Calling.listed pods with
      | error e =>
          refine .inr ⟨pods, listing, ?_⟩
          rw [hl]
          nofun
      | ok items =>
          cases items with
          | nil => exact ⟨some pods, listing⟩
          | cons item items =>
              have more : Calling.listed pods ≠ .ok [] := by
                rw [hl]
                simp
              have each : MeetsOr R (((item :: items).filterMap Template.nameOf).forM fun name =>
                  Calling.remove (podPath ns name)) x' (fun _ => gone (some pods))
                  fun _ => gone (some pods) := by
                refine meetsOr_forM (fun name hname x hx => ?_) listing
                refine Calling.meetsOr_remove (fun x hx => ?_) hx
                simpa only [ite_self] using h.pod selector pods _ name hs hl hname x hx
              exact each.mono (fun _ _ hx => ⟨some pods, hx⟩) fun _ _ hx => .inr ⟨pods, hx, more⟩

/-- A deletion removes what there is, and then nothing is known to exist. -/
theorem meetsWith_delete_of_removeAll {ok error : σ → Prop}
    (h : MeetsOr R (removeAll ns r) x (fun _ => ok) fun _ => error) :
    MeetsWith R (delete ns) r x (fun _ r' x' => r' = { r with object := none } ∧ ok x')
      (fun _ r' x' => r' = r ∧ error x') := by
  rw [delete, meetsWith_get_bind, meetsWith_bind, Managing.meetsWith_ofCall]
  exact h.mono (fun _ _ hx => ⟨rfl, hx⟩) fun _ _ hx => ⟨rfl, hx⟩

theorem meetsWith_delete (h : Removing R ns t before broken gone) (ht : r.template = t)
    (hx : before x) :
    MeetsWith R (delete ns) r x (fun _ r' x' => r'.template = t ∧ ∃ pods, gone pods x')
      (fun _ r' x' => r'.template = t ∧ (broken x' ∨ Remaining gone x')) := by
  refine (meetsWith_delete_of_removeAll (meetsOr_removeAll h ht hx)).mono ?_ ?_
  · exact fun _ _ _ ⟨heq, hx⟩ => ⟨heq ▸ ht, hx⟩
  · exact fun _ _ _ ⟨heq, hx⟩ => ⟨heq ▸ ht, hx⟩

/-- From `before`, removing an object comes to `after` whatever its end. -/
def Clearing (R : Rules clusterInterface σ) (ns : String) (t : Template) (before after : σ → Prop) :
    Prop :=
  ∃ broken gone, Removing R ns t before broken gone ∧ (∀ x, broken x → after x) ∧
    ∀ pods x, gone pods x → after x

theorem Clearing.of_preserves {inv : σ → Prop}
    (object : R.Preserves inv (.send (.delete (t.kind.instancePath ns t.name))))
    (list : ∀ selector, t.podSelector = some selector →
      R.Preserves inv (.send (.get (listPath (podsPath ns) selector))))
    (pod : ∀ selector name, t.podSelector = some selector →
      R.Preserves inv (.send (.delete (podPath ns name)))) :
    Clearing R ns t inv inv := by
  refine ⟨inv, fun _ => inv, ⟨fun x hx => ?_, list, fun selector _ _ name hs _ _ => pod selector name hs⟩,
    fun _ hx => hx, fun _ _ hx => hx⟩
  simpa only [ite_self] using object x hx

theorem Clearing.removeAll {after : σ → Prop} (h : Clearing R ns t before after)
    (ht : r.template = t) (hx : before x) :
    MeetsOr R (removeAll ns r) x (fun _ => after) fun _ => after := by
  obtain ⟨broken, gone, removing, hbroken, hgone⟩ := h
  refine (meetsOr_removeAll removing ht hx).mono (fun _ x ⟨pods, hx⟩ => hgone pods x hx) ?_
  intro _ x hx
  obtain hx | ⟨pods, hx, -⟩ := hx
  · exact hbroken x hx
  · exact hgone _ x hx

theorem meets_delete {after : σ → Prop} (h : Clearing R ns t before after) (ht : r.template = t)
    (hx : before x) :
    ((delete ns).run.run r).Meets R x fun p x => p.2.template = t ∧ after x := by
  have cleared : MeetsWith R (delete ns) r x (fun _ r x => r.template = t ∧ after x)
      fun _ r x => r.template = t ∧ after x :=
    (meetsWith_delete_of_removeAll (h.removeAll ht hx)).mono
      (fun _ _ _ ⟨heq, hx⟩ => ⟨heq ▸ ht, hx⟩) fun _ _ _ ⟨heq, hx⟩ => ⟨heq ▸ ht, hx⟩
  exact cleared.meets

end Removing

/-! ### Creating -/

/-- What is known while an object that stands in the way is replaced: once the creation was refused,
while the old object goes, when it is looked for, and when it is gone. -/
structure Replacing (R : Rules clusterInterface σ) (ns : String) (t : Template)
    (refused broken : σ → Prop) (gone : Option Reply → σ → Prop)
    (going due absent posted lost : σ → Prop) : Prop where
  remove : Removing R ns t refused broken gone
  broken : ∀ x, broken x → lost x
  removed : ∀ pods x, gone pods x → going x ∧ lost x
  pause : ∀ span, R.Step going (.pause span) fun (tripped : Bool) x =>
    if tripped then lost x else due x
  get : R.Step due (.send (.get (t.kind.instancePath ns t.name))) fun (reply : Reply) x =>
    match reply with
    | .ok _ => going x
    | .error e => if e.isNotFound then absent x else lost x
  expired : ∀ x, due x → lost x
  post : R.Step absent (.send (.post (t.kind.collectionPath ns) t.document)) fun (reply : Reply) x =>
    if reply.isOk then posted x else lost x

/-- What is known when an object is to be created, once its creation was refused, and once the
cluster has it. -/
structure Submitting (R : Rules clusterInterface σ) (ns : String) (t : Template)
    (start refused posted lost : σ → Prop) : Prop where
  post : R.Step start (.send (.post (t.kind.collectionPath ns) t.document)) fun (reply : Reply) x =>
    match reply with
    | .ok _ => posted x
    | .error e =>
        if e.isConflict then if t.shared then posted x else refused x else lost x
  replace : t.shared = false → ∃ broken gone going due absent,
    Replacing R ns t refused broken gone going due absent posted lost

section Creating

variable {start refused posted lost : σ → Prop}

/-- One look for an object that should go. -/
def goneLook (path : String) : ExceptT LifecycleError ClusterScript (Option Unit) := do
  match ← (send (.get path) : ClusterScript Reply) with
  | .ok _ => return none
  | .error e => if e.isNotFound then return some () else throw (.cluster e)

theorem waitGone_eq : waitGone ns w r = w.guarded (goneLook (r.path ns))
    (throw (.cancelled r.kind r.name)) (throw (.watchTimeout r.kind r.name w.timeout)) := rfl

theorem meetsOr_goneLook {path : String} {ok : Option Unit → σ → Prop}
    {error : LifecycleError → σ → Prop} :
    MeetsOr R (goneLook path) x ok error ↔ R.allows x (.send (.get path)) ∧
      ∀ (reply : Reply) x', R.moves x ⟨.send (.get path), reply⟩ x' →
        match Template.goneVerdict reply with
        | none => ok none x'
        | some (.ok _) => ok (some ()) x'
        | some (.error e) => error e x' := by
  rw [goneLook, meetsOr_bind, meetsOr_liftM]
  refine and_congr_right fun _ => forall₃_congr fun reply x' _ => ?_
  cases reply with
  | ok document => rfl
  | error e =>
      simp only [Script.meets_done, Template.goneVerdict]
      cases e.isNotFound <;> rfl

theorem meetsOr_waitGone {going due absent : σ → Prop}
    (pause : ∀ span, R.Step going (.pause span) fun (tripped : Bool) x =>
      if tripped then lost x else due x)
    (get : R.Step due (.send (.get (r.path ns))) fun (reply : Reply) x =>
      match reply with
      | .ok _ => going x
      | .error e => if e.isNotFound then absent x else lost x)
    (expired : ∀ x, due x → lost x) (hx : going x) :
    MeetsOr R (waitGone ns w r) x (fun _ => absent) fun _ => lost := by
  rw [waitGone_eq]
  refine Watch.meets_guarded (C := .failing R fun _ => lost) (W := fun _ => going) (D := fun _ => due)
    (Q := fun _ => absent) ?_ ?_ ?_ (s := x) hx
  · intro k x hx
    obtain ⟨allowed, step⟩ := get x hx
    refine Calculus.meets_failing.2 (meetsOr_goneLook.2 ⟨allowed, fun reply x' moved => ?_⟩)
    have answered := step reply x' moved
    cases reply with
    | ok document => exact answered
    | error e => cases hn : e.isNotFound <;> simpa [Template.goneVerdict, hn] using answered
  · intro k span x hx
    refine Calculus.meets_failing.2 (meetsOr_liftM.2 ?_)
    obtain ⟨allowed, step⟩ := pause span x hx
    refine ⟨allowed, fun tripped x' moved => ?_⟩
    have paused := step tripped x' moved
    cases tripped <;> exact paused
  · exact fun k x hx _ => expired x hx

@[simp] theorem meetsWith_fail {e : LifecycleError} {ok : α → Resource → σ → Prop}
    {error : LifecycleError → Resource → σ → Prop} :
    MeetsWith R (fail e : Managing LifecycleError α) r x ok error ↔
      error e (r.withStatus .error) x := .rfl

theorem meetsWith_replace_of_waitGone {going absent : σ → Prop} (ht : r.template = t)
    (remove : MeetsOr R (removeAll ns r) x (fun _ => going) fun _ => lost)
    (wait : ∀ x, going x → MeetsOr R (waitGone ns w r) x (fun _ => absent) fun _ => lost)
    (post : R.Step absent (.send (.post (t.kind.collectionPath ns) t.document)) fun (reply : Reply) x =>
      if reply.isOk then posted x else lost x) :
    MeetsWith R (replace ns w) r x (fun _ r' x' => r'.template = t ∧ posted x')
      (fun _ r' x' => r'.template = t ∧ lost x') := by
  subst ht
  rw [replace, meetsWith_get_bind, meetsWith_bind, Managing.meetsWith_ofCall]
  refine remove.mono (fun _ x hx => ?_) fun _ x hx => ⟨rfl, hx⟩
  rw [meetsWith_bind, meetsWith_mk_liftM]
  refine (wait x hx).mono (fun _ x hx => ?_) fun _ x hx => ⟨rfl, hx⟩
  rw [meetsWith_bind, meetsWith_liftM]
  obtain ⟨allowed, step⟩ := post x hx
  refine ⟨allowed, fun reply x' moved => ?_⟩
  have answered := step reply x' moved
  cases reply with
  | ok document => exact ⟨rfl, answered⟩
  | error e =>
      rw [Script.meets_done]
      exact meetsWith_fail.2 ⟨rfl, answered⟩

theorem meetsWith_replace {broken : σ → Prop} {gone : Option Reply → σ → Prop}
    {going due absent : σ → Prop}
    (h : Replacing R ns t refused broken gone going due absent posted lost) (ht : r.template = t)
    (hx : refused x) :
    MeetsWith R (replace ns w) r x (fun _ r' x' => r'.template = t ∧ posted x')
      (fun _ r' x' => r'.template = t ∧ lost x') := by
  subst ht
  refine meetsWith_replace_of_waitGone rfl ((meetsOr_removeAll h.remove rfl hx).mono
    (fun _ x hx => ?_) fun _ x hx => ?_)
    (fun x hx => meetsOr_waitGone h.pause h.get h.expired hx) h.post
  · obtain ⟨pods, hx⟩ := hx
    exact (h.removed pods x hx).1
  · obtain hx | ⟨pods, hx, -⟩ := hx
    · exact h.broken x hx
    · exact (h.removed _ x hx).2

theorem meetsWith_submit_of_replace (refused : σ → Prop) (ht : r.template = t)
    (post : R.Step start (.send (.post (t.kind.collectionPath ns) t.document)) fun (reply : Reply) x =>
      match reply with
      | .ok _ => posted x
      | .error e =>
          if e.isConflict then if t.shared then posted x else refused x else lost x)
    (replace : t.shared = false → ∀ x, refused x → MeetsWith R (replace ns w) r x
      (fun _ r' x' => r'.template = t ∧ posted x') (fun _ r' x' => r'.template = t ∧ lost x'))
    (hx : start x) :
    MeetsWith R (submit ns w) r x (fun _ r' x' => r'.template = t ∧ posted x')
      (fun _ r' x' => r'.template = t ∧ lost x') := by
  subst ht
  rw [submit, meetsWith_get_bind, meetsWith_bind, meetsWith_liftM]
  obtain ⟨allowed, step⟩ := post x hx
  refine ⟨allowed, fun reply x' moved => ?_⟩
  have answered := step reply x' moved
  cases reply with
  | ok document => exact ⟨rfl, answered⟩
  | error e =>
      rw [Script.meets_done]
      dsimp only at answered ⊢
      cases hc : e.isConflict with
      | false =>
          simp only [hc, Bool.false_eq_true, if_false] at answered
          exact meetsWith_fail.2 ⟨rfl, answered⟩
      | true =>
          simp only [hc, if_true] at answered
          cases hs : r.template.shared with
          | true =>
              simp only [hs, if_true] at answered
              exact ⟨rfl, answered⟩
          | false =>
              simp only [hs, Bool.false_eq_true, if_false] at answered
              exact replace hs x' answered

theorem meetsWith_submit (h : Submitting R ns t start refused posted lost) (ht : r.template = t)
    (hx : start x) :
    MeetsWith R (submit ns w) r x (fun _ r' x' => r'.template = t ∧ posted x')
      (fun _ r' x' => r'.template = t ∧ lost x') := by
  refine meetsWith_submit_of_replace refused ht h.post (fun hs x hx => ?_) hx
  obtain ⟨broken, gone, going, due, absent, replacing⟩ := h.replace hs
  exact meetsWith_replace replacing ht hx

theorem meetsWith_create_of_submit {ok : Resource → σ → Prop} {error : Resource → σ → Prop}
    (submit : MeetsWith R (submit ns w) r x (fun _ r' x' => r'.template = t ∧ posted x') fun _ => error)
    (wait : ∀ r x, r.template = t → posted x →
      MeetsWith R (waitReady ns w) r x (fun _ => ok) fun _ => error) :
    MeetsWith R (create ns true w) r x (fun _ => ok) fun _ => error := by
  rw [create, meetsWith_bind]
  refine submit.mono (fun _ r x hx => ?_) fun _ _ _ hx => hx
  rw [meetsWith_modify_bind, if_pos rfl, meetsWith_bind]
  exact wait _ x hx.1 hx.2

/-- An object that was created was told to be ready. If it was not, it was lost, or the wait for it
ended before. -/
theorem meetsWith_create (h : Submitting R ns t start refused posted lost)
    (hw : Watching R ns t waiting due seen stopped) (hposted : ∀ x, posted x → waiting 0 x)
    (ht : r.template = t) (hx : start x) :
    MeetsWith R (create ns true w) r x
      (fun _ r' x' => r'.template = t ∧ ∃ k object, r'.observed = some object ∧
        t.Tells (seen k) object .ready x')
      (fun _ r' x' => r'.template = t ∧ (lost x' ∨ stopped x' ∨
        (∃ k, due k x' ∧ Watch.Spent w.interval w.timeout k) ∨ ∃ k, t.Breaks (seen k) x')) := by
  refine meetsWith_create_of_submit ((meetsWith_submit h ht hx).mono (fun _ _ _ hx => hx)
    fun _ r x ⟨ht, hx⟩ => ⟨ht, .inl hx⟩) fun r x ht hx => ?_
  refine (meetsWith_waitReady hw ht (hposted x hx)).mono (fun object r x ⟨ht, ho, k, hk⟩ => ?_)
    fun _ r x ⟨ht, hx⟩ => ⟨ht, .inr hx⟩
  exact ⟨ht, k, object, ho, hk⟩

/-- What the first posting of an object brings about and nothing else about it changes holds
whatever comes of its creation. -/
theorem meetsWith_create_of_step {start inv : σ → Prop}
    (first : R.Step start (.send (.post (t.kind.collectionPath ns) t.document)) fun _ => inv)
    (post : R.Preserves inv (.send (.post (t.kind.collectionPath ns) t.document)))
    (get : R.Preserves inv (.send (.get (t.kind.instancePath ns t.name))))
    (list : ∀ selector, t.podSelector = some selector →
      R.Preserves inv (.send (.get (listPath (podsPath ns) selector))))
    (pause : ∀ span, R.Preserves inv (.pause span))
    (clear : t.shared = false → Clearing R ns t inv inv) (ht : r.template = t) (hx : start x) :
    MeetsWith R (create ns true w) r x
      (fun _ r' x' => r'.template = t ∧ ∃ object, r'.observed = some object ∧ inv x')
      (fun _ r' x' => r'.template = t ∧ inv x') := by
  have submitting : Submitting R ns t start inv inv inv := by
    refine ⟨fun x hx => ?_, fun hs => ?_⟩
    · obtain ⟨allowed, kept⟩ := first x hx
      refine ⟨allowed, fun reply x' moved => ?_⟩
      have hx' := kept reply x' moved
      cases reply with
      | ok _ => exact hx'
      | error e => simpa only [ite_self] using hx'
    · obtain ⟨broken, gone, removing, hbroken, hgone⟩ := clear hs
      refine ⟨broken, gone, inv, inv, inv, removing, hbroken, fun pods x hx => ?_, fun span x hx => ?_,
        fun x hx => ?_, fun _ hx => hx, fun x hx => ?_⟩
      · exact ⟨hgone pods x hx, hgone pods x hx⟩
      · simpa only [ite_self] using pause span x hx
      · obtain ⟨allowed, kept⟩ := get x hx
        refine ⟨allowed, fun reply x' moved => ?_⟩
        have hx' := kept reply x' moved
        cases reply with
        | ok _ => exact hx'
        | error e => simpa only [ite_self] using hx'
      · simpa only [ite_self] using post x hx
  have watching : Watching R ns t (fun _ => inv) (fun _ => inv) (fun _ _ _ => inv) inv := by
    refine ⟨fun _ span x hx => ?_, fun _ => ⟨get, fun _ => list⟩, ?_⟩
    · simpa only [ite_self] using pause span x hx
    · exact fun _ _ _ _ ⟨_, _, hx, _⟩ _ => hx
  refine (meetsWith_create submitting watching (fun _ hx => hx) ht hx).mono ?_ ?_
  · exact fun _ r x ⟨ht, _, object, ho, _, _, hx, _⟩ => ⟨ht, object, ho, hx⟩
  · intro _ r x ⟨ht, hx⟩
    obtain hx | hx | ⟨_, hx, -⟩ | ⟨_, _, _, hx, -⟩ := hx <;> exact ⟨ht, hx⟩

/-- What nothing about an object changes holds whatever comes of its creation. -/
theorem meetsWith_create_of_preserves {inv : σ → Prop}
    (post : R.Preserves inv (.send (.post (t.kind.collectionPath ns) t.document)))
    (get : R.Preserves inv (.send (.get (t.kind.instancePath ns t.name))))
    (list : ∀ selector, t.podSelector = some selector →
      R.Preserves inv (.send (.get (listPath (podsPath ns) selector))))
    (pause : ∀ span, R.Preserves inv (.pause span))
    (clear : t.shared = false → Clearing R ns t inv inv) (ht : r.template = t) (hx : inv x) :
    MeetsWith R (create ns true w) r x
      (fun _ r' x' => r'.template = t ∧ ∃ object, r'.observed = some object ∧ inv x')
      (fun _ r' x' => r'.template = t ∧ inv x') :=
  meetsWith_create_of_step post post get list pause clear ht hx

end Creating

/-! ### Reading -/

/-- Requests about the pods of an object. -/
def Inspects (ns : String) (t : Template) (request : Request) : Prop :=
  (∃ selector, t.podSelector = some selector ∧
    request = .get (listPath (podsPath ns) selector)) ∨
  ∃ pod, request = .get (podLogPath ns pod)

section Reading

variable {inv : σ → Prop}

/-- Reads what the pod has written that is known. -/
def readLog (ns : String) : Managing ClusterError (Option String) := do
  match (← get).pod with
  | none => return none
  | some pod =>
      Managing.ofCall id <| Calling.orMissing (do
        let document ← Calling.send (.get (podLogPath ns pod))
        return some document.toText) none

theorem meetsWith_readLog (h : ∀ pod, R.Preserves inv (.send (.get (podLogPath ns pod))))
    (ht : r.template = t) (hx : inv x) :
    MeetsWith R (readLog ns) r x (fun _ r' x' => r'.template = t ∧ inv x')
      (fun _ r' x' => r'.template = t ∧ inv x') := by
  rw [readLog, meetsWith_get_bind]
  cases r.pod with
  | none => exact ⟨ht, hx⟩
  | some pod =>
      refine Managing.meetsWith_ofCall.2 (Calling.meetsOr_orMissing.2 (meetsOr_bind.2
        (Calling.meetsOr_send.2 ?_)))
      obtain ⟨allowed, kept⟩ := h pod x hx
      refine ⟨allowed, fun reply x' moved => ?_⟩
      have hx' := kept reply x' moved
      cases reply with
      | ok document => exact ⟨ht, hx'⟩
      | error e =>
          simp only [Ending]
          split <;> exact ⟨ht, hx'⟩

theorem meetsWith_logs (h : ∀ request, Inspects ns t request → R.Preserves inv (.send request))
    (ht : r.template = t) (hx : inv x) :
    MeetsWith R (logs ns) r x (fun _ r' x' => r'.template = t ∧ inv x')
      (fun _ r' x' => r'.template = t ∧ inv x') := by
  have read (r : Resource) (x : σ) (ht : r.template = t) (hx : inv x) := meetsWith_readLog
    (fun pod => h _ (.inr ⟨pod, rfl⟩)) ht hx
  rw [logs, meetsWith_get_bind]
  split
  · refine meetsWith_bind.2 ((meetsWith_findPod (fun _ => inv) (fun selector hs x hx => ?_) ht hx).mono
      (fun _ r' x' found => ?_) fun _ r' x' lost => ?_)
    · exact h _ (.inl ⟨selector, hs, rfl⟩) x hx
    · obtain ⟨⟨ht', -⟩, _, hx', -⟩ := found
      exact read r' x' ht' hx'
    · obtain ⟨⟨ht', -⟩, _, hx', -⟩ := lost
      exact ⟨ht', hx'⟩
  · exact read r x ht hx

theorem meetsOr_metrics (h : ∀ path, R.Preserves inv (.send ⟨.metrics, .get, path, none⟩))
    (series : List String) (hx : inv x) :
    MeetsOr R (metrics series r) x (fun _ => inv) fun _ => inv := by
  unfold metrics
  cases r.pod with
  | none => exact hx
  | some pod =>
      refine meetsOr_foldlM (fun found name _ x hx => ?_) hx _
      refine meetsOr_bind.2 (Calling.meetsOr_send.2 ?_)
      obtain ⟨allowed, kept⟩ := h _ x hx
      refine ⟨allowed, fun reply x' moved => ?_⟩
      have hx' := kept reply x' moved
      cases reply with
      | error e => exact hx'
      | ok document =>
          refine meetsOr_bind.2 (Calling.meetsOr_json.2 ?_)
          cases document.toJson <;> exact hx'

end Reading

/-- The object in the answer to a look at it, if it exists. -/
def fetched (reply : Reply) : Except ClusterError (Option Json) :=
  match reply.bind Document.toJson with
  | .ok object => .ok (some object)
  | .error e => if e.isNotFound then .ok none else .error e

theorem meetsOr_fetch {ok : Option Json → σ → Prop} {error : ClusterError → σ → Prop} :
    MeetsOr R (fetch ns r) x ok error ↔ R.allows x (.send (.get (r.path ns))) ∧
      ∀ (reply : Reply) x', R.moves x ⟨.send (.get (r.path ns)), reply⟩ x' →
        Ending ok error (fetched reply) x' := by
  rw [fetch, Calling.meetsOr_orMissing, meetsOr_bind, Calling.meetsOr_send]
  refine and_congr_right fun _ => forall₃_congr fun reply x' _ => ?_
  have missing (e : ClusterError) : (if e.isNotFound then ok none x' else error e x') ↔
      Ending ok error (if e.isNotFound then .ok none else .error e) x' := by
    split <;> rfl
  cases reply with
  | error e => exact missing e
  | ok document =>
      simp only [Ending, meetsOr_bind, Calling.meetsOr_json, meetsOr_pure, fetched, Except.bind]
      cases document.toJson with
      | ok object => rfl
      | error e => exact missing e

end Resource

end ImageryJobs
