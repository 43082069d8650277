import ImageryJobs.Proofs.Simulation.Courses
import ImageryJobs.Proofs.Simulation.Views

/-!
The life of one object in an undisturbed run. An object is created at once, and is ready at the first
look, or at the look at which builds and batch jobs are complete; if that comes before the deadline
its creation does not fail. Deleting it leaves the cluster as it was before.
-/

namespace ImageryJobs

/-! ### Objects that become ready in time -/

namespace Resource

variable {σ : Type} {R : Rules clusterInterface σ} {ns : String} {t : Template} {r : Resource}
  {watch : Watch} {x : σ} {extra : Nat} {start : σ → Prop} {grown : Nat → σ → Prop}
  {seen : Nat → Reply → Option Reply → σ → Prop} {ripe : Json → σ → Prop}

/-- What is known of an object that is created at once: after so many looks, and after the answers to
one more. The look after `extra` others tells that it is ready. -/
structure Ripening (R : Rules clusterInterface σ) (ns : String) (t : Template) (extra : Nat)
    (start : σ → Prop) (grown : Nat → σ → Prop) (seen : Nat → Reply → Option Reply → σ → Prop)
    (ripe : Json → σ → Prop) : Prop where
  post : R.Step start (.send (.post (t.kind.collectionPath ns) t.document)) fun (reply : Reply) x =>
    reply.isOk = true ∧ grown 0 x
  pause : ∀ k span, R.Step (grown k) (.pause span) fun (tripped : Bool) x => tripped = false ∧ grown k x
  look : ∀ k, Looking R ns t (grown k) (seen k)
  tell : ∀ k reply pods x, seen k reply pods x → ∃ object verdict,
    t.judge reply pods = .ok (object, verdict) ∧ (∀ reason, verdict ≠ .failed reason) ∧
      (pods.isSome = t.podSelector.isSome →
        if k < extra then verdict ≠ .ready ∧ grown (k + 1) x else verdict = .ready ∧ ripe object x)

/-- An object that is ready before the deadline is created. -/
theorem meetsWith_create_of_ripening (h : Ripening R ns t extra start grown seen ripe)
    (interval : 0 < watch.interval) (time : extra * watch.interval < watch.timeout)
    (ht : r.template = t) (hx : start x) :
    MeetsWith R (create ns true watch) r x
      (fun _ r x => r.template = t ∧ ∃ object, r.observed = some object ∧ ripe object x)
      fun _ _ _ => False := by
  have submitting : Submitting R ns t start (fun _ => False) (grown 0) fun _ => False := by
    refine ⟨fun x hx => ?_, fun _ => ?_⟩
    · obtain ⟨allowed, step⟩ := h.post x hx
      refine ⟨allowed, fun reply x' moved => ?_⟩
      obtain ⟨ok, hx'⟩ := step reply x' moved
      cases reply with
      | ok document => exact hx'
      | error e => cases ok
    · exact ⟨fun _ => False, fun _ _ => False, fun _ => False, fun _ => False, fun _ => False,
        ⟨nofun, nofun, nofun⟩, nofun, nofun, nofun, nofun, nofun, nofun⟩
  -- No look is due once the object must be ready.
  have watching : Watching R ns t (fun k x => grown k x ∧ k ≤ extra) (fun k x => grown k x ∧ k ≤ extra)
      (fun k reply pods x => seen k reply pods x ∧ k ≤ extra) fun _ => False := by
    refine ⟨fun k span x ⟨hx, hk⟩ => ?_, fun k => ⟨fun x ⟨hx, hk⟩ => ?_, fun reply selector hs x ⟨hx, hk⟩ => ?_⟩,
      fun k object verdict x ⟨reply, pods, ⟨hx, hk⟩, hp, judged⟩ waits => ?_⟩
    · obtain ⟨allowed, step⟩ := h.pause k span x hx
      refine ⟨allowed, fun tripped x' moved => ?_⟩
      obtain ⟨rfl, hx'⟩ := step tripped x' moved
      exact ⟨hx', hk⟩
    · obtain ⟨allowed, step⟩ := (h.look k).get x hx
      exact ⟨allowed, fun reply x' moved => ⟨step reply x' moved, hk⟩⟩
    · obtain ⟨allowed, step⟩ := (h.look k).pods reply selector hs x hx
      exact ⟨allowed, fun pods x' moved => ⟨step pods x' moved, hk⟩⟩
    · obtain ⟨object', verdict', judged', -, told⟩ := h.tell k reply pods x hx
      cases judged.symm.trans judged'
      specialize told hp
      by_cases early : k < extra
      · rw [if_pos early] at told
        exact ⟨told.2, early⟩
      · rw [if_neg early] at told
        obtain waits | waits := waits <;> cases waits.symm.trans told.1
  refine (meetsWith_create submitting watching (fun _ hx => ⟨hx, Nat.zero_le _⟩) ht hx).mono
    (fun _ r x ⟨ht, k, object, ho, reply, pods, ⟨hx, _⟩, hp, judged⟩ => ⟨ht, object, ho, ?_⟩)
    fun _ r x ⟨_, lost⟩ => ?_
  · obtain ⟨object', verdict, judged', -, told⟩ := h.tell k reply pods x hx
    cases judged.symm.trans judged'
    specialize told hp
    by_cases early : k < extra
    · rw [if_pos early] at told
      exact absurd rfl told.1
    · rw [if_neg early] at told
      exact told.2
  · obtain lost | lost | ⟨k, ⟨_, hk⟩, spent | spent⟩ | ⟨k, reply, pods, ⟨hx, _⟩, broken⟩ := lost
    · exact lost
    · exact lost
    · exact absurd (spent.trans (Nat.mul_le_mul_right _ hk)) (Nat.not_le.2 time)
    · exact absurd spent interval.ne'
    · obtain ⟨object, verdict, judged, sound, -⟩ := h.tell k reply pods x hx
      obtain ⟨reason, failed⟩ := broken object verdict judged
      exact sound reason failed

end Resource

namespace Simulation

open SimulatedCluster

/-! ### Where an undisturbed run is -/

/-- What is worth noting of a run. -/
inductive Mark where
  | report (event : TaskEvent)
  /-- A build is created from a document. -/
  | build (document : Json)
  /-- A batch job is created. -/
  | batch
  deriving DecidableEq

variable {ns : String} {looks : Nat} {v : View} {l : List Mark} {w : Situation}

/-- What is noted of the creation of an object. -/
def Mark.created (document : Json) : ResourceKind → List Mark
  | .build => [.build document]
  | .batchJob => [.batch]
  | _ => []

def marksOf (ns : String) : EngineOp → List Mark
  | .report event => [.report event]
  | .cluster (.send ⟨.controlPlane, .post, path, some document⟩) =>
      if path = ResourceKind.build.collectionPath ns then [.build document]
      else if path = ResourceKind.batchJob.collectionPath ns then [.batch]
      else []
  | .cluster _ => []

/-- What is worth noting in a log, in its order. -/
def marks (ns : String) (log : List (Event engineInterface)) : List Mark :=
  log.flatMap fun event => marksOf ns event.op

theorem marks_snoc (log : List (Event engineInterface)) (event : Event engineInterface) :
    marks ns (log ++ [event]) = marks ns log ++ marksOf ns event.op := by
  rw [marks, List.flatMap_append, List.flatMap_singleton]
  rfl

/-- Nothing is arranged, this stands in the cluster, and this was noted. -/
structure At (ns : String) (looks : Nat) (v : View) (l : List Mark) (w : Situation) : Prop where
  plain : Plain ns looks w.2
  view : w.2.view = v
  noted : marks ns w.1 = l

theorem marksOf_post (kind : ResourceKind) (document : Json) :
    marksOf ns (.cluster (.send (.post (kind.collectionPath ns) document))) =
      Mark.created document kind := by
  have same (kind' : ResourceKind) :
      kind.collectionPath ns = kind'.collectionPath ns ↔ kind = kind' :=
    ⟨ResourceKind.collectionPath_inj, fun heq => heq ▸ rfl⟩
  simp only [Request.post, marksOf, same]
  cases kind <;> rfl

theorem marksOf_of_ne_post {request : Request} (h : request.verb ≠ .post) :
    marksOf ns (.cluster (.send request)) = [] := by
  unfold marksOf
  split
  · rename_i heq
    cases heq
  · rename_i heq
    cases heq
    exact absurd rfl h
  · rfl

theorem step_send {request : Request} {post : Reply → View → Prop} (h : Effect ns looks request v post) :
    course.within.Step (At ns looks v l) (.send request) fun reply w => ∃ v', post reply v' ∧
      At ns looks v' (l ++ marksOf ns (.cluster (.send request))) w := by
  refine fun w hw => ⟨trivial, fun reply w' moved => ?_⟩
  obtain ⟨log, c⟩ := w'
  obtain ⟨rfl, answered⟩ := moved
  have answered : w.2.answer request = (reply, c) := answered
  obtain ⟨plain, told⟩ := h w.2 hw.plain hw.view
  rw [answered] at plain told
  refine ⟨_, told, plain, rfl, ?_⟩
  rw [marks_snoc, hw.noted]
  rfl

theorem step_quiet {request : Request} {post : Reply → View → Prop} (hv : request.verb ≠ .post)
    (h : Effect ns looks request v post) :
    course.within.Step (At ns looks v l) (.send request) fun reply w => ∃ v', post reply v' ∧
      At ns looks v' l w := by
  have step := step_send (l := l) h
  rwa [marksOf_of_ne_post hv, List.append_nil] at step

theorem step_pause (span : Millis) :
    course.within.Step (At ns looks v l) (.pause span) fun (tripped : Bool) w =>
      tripped = false ∧ At ns looks v l w := by
  refine fun w hw => ⟨trivial, fun tripped w' moved => ?_⟩
  obtain ⟨log, c⟩ := w'
  obtain ⟨rfl, answered⟩ := moved
  cases answered
  refine ⟨rfl, hw.plain, hw.view, ?_⟩
  rw [marks_snoc, hw.noted]
  exact List.append_nil l

theorem step_report (event : TaskEvent) :
    course.Step (At ns looks v l) (.report event) fun answer w =>
      answer = .ok () ∧ At ns looks v (l ++ [.report event]) w := by
  refine fun w hw => ⟨trivial, fun answer w' moved => ?_⟩
  obtain ⟨log, c⟩ := w'
  obtain ⟨rfl, answered⟩ := moved
  cases answered
  refine ⟨rfl, hw.plain, hw.view, ?_⟩
  rw [marks_snoc, hw.noted]
  rfl

/-! ### Objects without pods -/

theorem judge_json {t : Template} {document : Json} {pods : Option Reply} {found : Option Json}
    (h : firstPod pods = .ok found) :
    t.judge (.ok (.json document)) pods = .ok (document, t.readiness document found) := by
  simp [Template.judge, Document.toJson, h, bind, Except.bind, pure, Except.pure]

section

variable {t : Template} {r : Resource} {watch : Watch} {object : StoredObject}
  (hns : '?' ∉ ns.toList) (label : IsLabel t.name)
include hns

theorem create_podless (ready : StoredObject → Prop) (named : t.IsNamed)
    (podless : podOwner? t.kind = none) (single : t.podSelector = none)
    (absent : v.objects t.kind t.name = none)
    (look : Effect ns looks (.get (t.kind.instancePath ns t.name))
      (v.set t.kind t.name (some ⟨initialDocument t.kind t.document, 0⟩)) fun reply v' =>
        ∃ object, reply = .ok (.json object.document) ∧ ready object ∧
          v' = v.set t.kind t.name (some object))
    (judged : ∀ object, ready object → t.readiness object.document none = .ready)
    (interval : 0 < watch.interval) (time : 0 < watch.timeout) (hr : r.template = t)
    (hw : At ns looks v l w) :
    MeetsWith course.within (Resource.create ns true watch) r w
      (fun _ r w => r.template = t ∧ ∃ object, r.observed = some object.document ∧ ready object ∧
        At ns looks (v.set t.kind t.name (some object)) l w)
      fun _ _ _ => False := by
  have unnoted : Mark.created t.document t.kind = [] := by
    cases hk : t.kind <;> first | rfl | (rw [hk] at podless; cases podless)
  let seen (_ : Nat) (reply : Reply) (pods : Option Reply) (w : Situation) : Prop := pods = none ∧
    ∃ object, reply = .ok (.json object.document) ∧ ready object ∧
      At ns looks (v.set t.kind t.name (some object)) l w
  let ripe (document : Json) (w : Situation) : Prop := ∃ object : StoredObject,
    document = object.document ∧ ready object ∧ At ns looks (v.set t.kind t.name (some object)) l w
  have ripening : Resource.Ripening course.within ns t 0 (At ns looks v l)
      (fun _ => At ns looks (v.set t.kind t.name (some ⟨initialDocument t.kind t.document, 0⟩)) l)
      seen ripe := by
    refine ⟨fun w hw => ?_, fun _ span => step_pause span, fun _ => ⟨fun w hw => ?_, fun _ selector hs => ?_⟩,
      fun _ reply pods w ⟨hp, object, hreply, hready, hw⟩ => ?_⟩
    · obtain ⟨allowed, step⟩ := step_send (effect_post hns named podless absent) w hw
      refine ⟨allowed, fun reply w' moved => ?_⟩
      obtain ⟨_, ⟨ok, rfl⟩, hw'⟩ := step reply w' moved
      rw [marksOf_post, unnoted, List.append_nil] at hw'
      exact ⟨ok, hw'⟩
    · have read : (Request.get (t.kind.instancePath ns t.name)).verb ≠ .post := nofun
      obtain ⟨allowed, step⟩ := step_quiet read look w hw
      refine ⟨allowed, fun reply w' moved => ?_⟩
      obtain ⟨_, ⟨object, hreply, hready, rfl⟩, hw'⟩ := step reply w' moved
      exact ⟨rfl, object, hreply, hready, hw'⟩
    · cases single.symm.trans hs
    · subst hp hreply
      refine ⟨object.document, _, judge_json rfl, ?_⟩
      rw [judged object hready, if_neg (Nat.not_lt_zero _)]
      exact ⟨nofun, fun _ => ⟨rfl, object, rfl, hready, hw⟩⟩
  have in_time : 0 * watch.interval < watch.timeout := by simpa using time
  exact (Resource.meetsWith_create_of_ripening ripening interval in_time hr hw).mono
    (fun _ r w ⟨ht, _, ho, object, hd, hready, hw⟩ => ⟨ht, object, hd ▸ ho, hready, hw⟩) fun _ _ _ h => h

include label in
/-- Deleting an object without pods takes it away. -/
theorem clear_podless (podless : podOwner? t.kind = none) (single : t.podSelector = none) :
    Resource.Clearing course.within ns t (At ns looks v l) (At ns looks (v.set t.kind t.name none) l) := by
  refine ⟨fun _ => False, fun _ => At ns looks (v.set t.kind t.name none) l, ⟨fun w hw => ?_,
    fun selector hs => ?_, fun selector _ _ _ hs => ?_⟩, nofun, fun _ _ hw => hw⟩
  · have quiet : (Request.delete (t.kind.instancePath ns t.name)).verb ≠ .post := nofun
    obtain ⟨allowed, step⟩ := step_quiet quiet (effect_delete hns label podless) w hw
    refine ⟨allowed, fun reply w' moved => ?_⟩
    obtain ⟨_, ⟨gone, rfl⟩, hw'⟩ := step reply w' moved
    rw [if_pos gone]
    exact hw'
  · cases single.symm.trans hs
  · cases single.symm.trans hs

/-! ### Objects with a pod -/

omit hns in
/-- A pod that runs an object. -/
def IsPodOf (ownerLabel name : String) (pod : Json) : Prop :=
  HasStatus pod ∧ labelOf ownerLabel pod = name

variable {u u' : View} {ownerLabel ending : String}

/-- Two looks at an object with a pod: the object, and then its pod. -/
theorem list_working {key : String} {pod : Json} (hl : '=' ∉ ownerLabel.toList)
    (own : labelOf ownerLabel pod = t.name) :
    course.within.Step (At ns looks (v.working t.kind t.name object key pod) l)
      (.send (.get (listPath (podsPath ns) (selectorOf ownerLabel t.name)))) fun (pods : Reply) w =>
        firstPod (some pods) = .ok (some pod) ∧ At ns looks (v.working t.kind t.name object key pod) l w := by
  have read : (Request.get (listPath (podsPath ns) (selectorOf ownerLabel t.name))).verb ≠ .post := nofun
  intro w hw
  obtain ⟨allowed, step⟩ := step_quiet read (effect_get_pods hns hl) w hw
  refine ⟨allowed, fun pods w' moved => ?_⟩
  obtain ⟨_, ⟨rfl, items, listed, members⟩, hw'⟩ := step pods w' moved
  have only (pod' : Json) : pod' ∈ items ↔ pod' = pod := by
    rw [members]
    constructor
    · intro h
      obtain ⟨-, key', there⟩ := h
      change (if key' = key then some pod else none) = some pod' at there
      split at there
      · exact (Option.some.inj there).symm
      · cases there
    · intro h
      subst h
      exact ⟨own, key, if_pos rfl⟩
  refine ⟨?_, hw'⟩
  rw [firstPod, listed]
  cases items with
  | nil => exact absurd ((only pod).2 rfl) List.not_mem_nil
  | cons first rest =>
      cases (only first).1 List.mem_cons_self
      rfl

/-- What a look does to an object with a pod: it runs on, or is ready. -/
def Looked (looks : Nat) (t : Template) (ownerLabel ending : String) (u u' : View) (kept : Json → Prop)
    (object : StoredObject) (reply : Reply) (v : View) : Prop :=
  ∃ document pod, reply = .ok (.json document) ∧ kept document ∧ IsPodOf ownerLabel t.name pod ∧
    (∀ reason, t.readiness document none ≠ .failed reason ∧
      t.readiness document (some pod) ≠ .failed reason) ∧
    if object.looks + 1 < looks then t.readiness document (some pod) ≠ .ready ∧
      v = u.working t.kind t.name ⟨document, object.looks + 1⟩ (t.name ++ ending) pod
    else t.readiness document (some pod) = .ready ∧
      v = u'.working t.kind t.name ⟨document, object.looks + 1⟩ (t.name ++ ending) pod

/-- An object with a pod runs, and was looked at so many times. -/
def Running (ns : String) (looks : Nat) (t : Template) (ownerLabel ending : String) (u : View)
    (kept : Json → Prop) (l : List Mark) (k : Nat) (w : Situation) : Prop :=
  ∃ document pod, kept document ∧ IsPodOf ownerLabel t.name pod ∧
    At ns looks (u.working t.kind t.name ⟨document, k⟩ (t.name ++ ending) pod) l w

/-- After a look at the object the view is known, and a listing finds the pod. -/
def Seen (ns : String) (looks : Nat) (t : Template) (ownerLabel ending : String) (u u' : View)
    (kept : Json → Prop) (l : List Mark) (k : Nat) (reply : Reply) (pods : Option Reply)
    (w : Situation) : Prop :=
  ∃ document pod v, kept document ∧ IsPodOf ownerLabel t.name pod ∧ reply = .ok (.json document) ∧
    (∀ reason, t.readiness document none ≠ .failed reason ∧
      t.readiness document (some pod) ≠ .failed reason) ∧
    (if k + 1 < looks then t.readiness document (some pod) ≠ .ready ∧ v = u
      else t.readiness document (some pod) = .ready ∧ v = u') ∧
    (∀ answer, pods = some answer → firstPod pods = .ok (some pod)) ∧
    At ns looks (v.working t.kind t.name ⟨document, k + 1⟩ (t.name ++ ending) pod) l w

/-- An object is ready and has its pod. -/
def Working (ns : String) (looks : Nat) (t : Template) (ownerLabel ending : String) (u : View)
    (l : List Mark) (w : Situation) : Prop :=
  ∃ object pod, IsPodOf ownerLabel t.name pod ∧
    At ns looks (u.working t.kind t.name object (t.name ++ ending) pod) l w

theorem ripening_working (kept : Json → Prop) (named : t.IsNamed)
    (owner : podOwner? t.kind = some (ownerLabel, ending))
    (selector : t.podSelector = some (selectorOf ownerLabel t.name))
    (hl : '=' ∉ ownerLabel.toList) (hp : ownerLabel ≠ processLabel)
    (absent : u.objects t.kind t.name = none) (podless : ∀ key, u.pods key = none)
    (initial : kept (initialDocument t.kind t.document))
    (look : ∀ object pod, kept object.document → IsPodOf ownerLabel t.name pod →
      Effect ns looks (.get (t.kind.instancePath ns t.name))
        (u.working t.kind t.name object (t.name ++ ending) pod)
        (Looked looks t ownerLabel ending u u' kept object)) :
    Resource.Ripening course.within ns t (looks - 1) (At ns looks u l)
      (Running ns looks t ownerLabel ending u kept (l ++ Mark.created t.document t.kind))
      (Seen ns looks t ownerLabel ending u u' kept (l ++ Mark.created t.document t.kind))
      fun _ => Working ns looks t ownerLabel ending u' (l ++ Mark.created t.document t.kind) := by
  refine ⟨fun w hw => ?_, fun k span w hw => ?_, fun k => ⟨fun w hw => ?_, fun reply selector' hs w hw => ?_⟩,
    fun k reply pods w hw => ?_⟩
  · obtain ⟨allowed, step⟩ := step_send (effect_post_pod hns named owner absent podless) w hw
    refine ⟨allowed, fun reply w' moved => ?_⟩
    obtain ⟨_, ⟨ok, rfl⟩, hw'⟩ := step reply w' moved
    rw [marksOf_post] at hw'
    exact ⟨ok, _, _, initial, ⟨hasStatus_newPod, labelOf_newPod hp⟩, hw'⟩
  · obtain ⟨document, pod, kept, own, hw⟩ := hw
    obtain ⟨allowed, step⟩ := step_pause span w hw
    refine ⟨allowed, fun tripped w' moved => ?_⟩
    obtain ⟨rfl, hw'⟩ := step tripped w' moved
    exact ⟨rfl, document, pod, kept, own, hw'⟩
  · obtain ⟨document, pod, kept, own, hw⟩ := hw
    have read : (Request.get (t.kind.instancePath ns t.name)).verb ≠ .post := nofun
    obtain ⟨allowed, step⟩ := step_quiet read (look ⟨document, k⟩ pod kept own) w hw
    refine ⟨allowed, fun reply w' moved => ?_⟩
    obtain ⟨v, ⟨document', pod', hreply, kept', own', sound, judged⟩, hw'⟩ := step reply w' moved
    by_cases early : k + 1 < looks
    · rw [if_pos early] at judged
      obtain ⟨waits, rfl⟩ := judged
      refine ⟨document', pod', u, kept', own', hreply, sound, ?_, nofun, hw'⟩
      rw [if_pos early]
      exact ⟨waits, rfl⟩
    · rw [if_neg early] at judged
      obtain ⟨ready, rfl⟩ := judged
      refine ⟨document', pod', u', kept', own', hreply, sound, ?_, nofun, hw'⟩
      rw [if_neg early]
      exact ⟨ready, rfl⟩
  · cases selector.symm.trans hs
    obtain ⟨document, pod, v, kept, own, hreply, sound, judged, -, hw⟩ := hw
    obtain ⟨allowed, step⟩ := list_working hns hl own.2 w hw
    refine ⟨allowed, fun pods w' moved => ?_⟩
    obtain ⟨first, hw'⟩ := step pods w' moved
    exact ⟨document, pod, v, kept, own, hreply, sound, judged, fun _ _ => first, hw'⟩
  · obtain ⟨document, pod, v, kept, own, rfl, sound, judged, first, hw⟩ := hw
    cases pods with
    | none =>
        refine ⟨document, _, judge_json rfl, fun reason => (sound reason).1, fun hp => ?_⟩
        rw [selector] at hp
        cases hp
    | some answer =>
        refine ⟨document, _, judge_json (first answer rfl), fun reason => (sound reason).2, fun _ => ?_⟩
        by_cases early : k + 1 < looks
        · rw [if_pos early] at judged
          rw [if_pos (by omega)]
          rw [judged.2] at hw
          exact ⟨judged.1, document, pod, kept, own, hw⟩
        · rw [if_neg early] at judged
          rw [if_neg (by omega)]
          rw [judged.2] at hw
          exact ⟨judged.1, _, pod, own, hw⟩

/-- An object with a pod is created, and runs until it is ready. -/
theorem create_working (kept : Json → Prop) (named : t.IsNamed)
    (owner : podOwner? t.kind = some (ownerLabel, ending))
    (selector : t.podSelector = some (selectorOf ownerLabel t.name))
    (hl : '=' ∉ ownerLabel.toList) (hp : ownerLabel ≠ processLabel)
    (absent : u.objects t.kind t.name = none) (podless : ∀ key, u.pods key = none)
    (initial : kept (initialDocument t.kind t.document))
    (look : ∀ object pod, kept object.document → IsPodOf ownerLabel t.name pod →
      Effect ns looks (.get (t.kind.instancePath ns t.name))
        (u.working t.kind t.name object (t.name ++ ending) pod)
        (Looked looks t ownerLabel ending u u' kept object))
    (interval : 0 < watch.interval) (time : (looks - 1) * watch.interval < watch.timeout)
    (hr : r.template = t) (hw : At ns looks u l w) :
    MeetsWith course.within (Resource.create ns true watch) r w
      (fun _ r w => r.template = t ∧
        Working ns looks t ownerLabel ending u' (l ++ Mark.created t.document t.kind) w)
      fun _ _ _ => False := by
  have ripening := ripening_working (l := l) hns kept named owner selector hl hp absent podless initial look
  exact (Resource.meetsWith_create_of_ripening ripening interval time hr hw).mono
    (fun _ r w ⟨ht, _, _, hw⟩ => ⟨ht, hw⟩) fun _ _ _ h => h

/-- While an object with a pod is there its pod can be found and read. -/
theorem inspect_working {request : Request}
    (selector : t.podSelector = some (selectorOf ownerLabel t.name)) (hl : '=' ∉ ownerLabel.toList)
    (h : Resource.Inspects ns t request) :
    course.within.Preserves (At ns looks v l) (.send request) := by
  intro w hw
  obtain ⟨selector', hs, rfl⟩ | ⟨pod, rfl⟩ := h
  · cases selector.symm.trans hs
    have read : (Request.get (listPath (podsPath ns) (selectorOf ownerLabel t.name))).verb ≠ .post := nofun
    obtain ⟨allowed, step⟩ := step_quiet read (effect_get_pods hns hl) w hw
    refine ⟨allowed, fun reply w' moved => ?_⟩
    obtain ⟨_, ⟨rfl, -⟩, hw'⟩ := step reply w' moved
    exact hw'
  · have read : (Request.get (podLogPath ns pod)).verb ≠ .post := nofun
    obtain ⟨allowed, step⟩ := step_quiet read (effect_get_log hns) w hw
    refine ⟨allowed, fun reply w' moved => ?_⟩
    obtain ⟨_, rfl, hw'⟩ := step reply w' moved
    exact hw'

include label in
/-- Deleting an object with a pod leaves nothing of it. -/
theorem removing_working (known : View → Prop) (owner : podOwner? t.kind = some (ownerLabel, ending))
    (selector : t.podSelector = some (selectorOf ownerLabel t.name)) (hl : '=' ∉ ownerLabel.toList)
    (absent : ∀ u, known u → u.objects t.kind t.name = none)
    (podless : ∀ u, known u → ∀ key, u.pods key = none) :
    Resource.Removing course.within ns t
      (fun w => ∃ u, known u ∧ ∃ object pod, IsPodOf ownerLabel t.name pod ∧
        At ns looks (u.working t.kind t.name object (t.name ++ ending) pod) l w)
      (fun _ => False)
      fun pods w => (∀ answer, pods = some answer → Calling.listed answer = .ok []) ∧
        ∃ u, known u ∧ At ns looks u l w := by
  refine ⟨fun w ⟨u, hu, object, pod, own, hw⟩ => ?_, fun selector' hs w ⟨_, u, hu, hw⟩ => ?_,
    fun selector' pods items name hs hl' hn w ⟨hp, _⟩ => ?_⟩
  · have quiet : (Request.delete (t.kind.instancePath ns t.name)).verb ≠ .post := nofun
    obtain ⟨allowed, step⟩ :=
      step_quiet quiet (effect_delete_pod hns label owner own.2 (absent u hu) (podless u hu)) w hw
    refine ⟨allowed, fun reply w' moved => ?_⟩
    obtain ⟨_, ⟨gone, rfl⟩, hw'⟩ := step reply w' moved
    rw [if_pos gone]
    exact ⟨nofun, _, hu, hw'⟩
  · cases selector.symm.trans hs
    have read : (Request.get (listPath (podsPath ns) (selectorOf ownerLabel t.name))).verb ≠ .post := nofun
    obtain ⟨allowed, step⟩ := step_quiet read (effect_get_pods hns hl) w hw
    refine ⟨allowed, fun reply w' moved => ?_⟩
    obtain ⟨_, ⟨rfl, items, listed, members⟩, hw'⟩ := step reply w' moved
    refine ⟨fun answer heq => ?_, _, hu, hw'⟩
    cases heq
    have none : items = [] := by
      refine List.eq_nil_iff_forall_not_mem.2 fun pod hpod => ?_
      obtain ⟨-, key, there⟩ := (members pod).1 hpod
      cases (podless _ hu key).symm.trans there
    rw [listed, none]
  · cases (hp pods rfl).symm.trans hl'
    cases hn

end

end Simulation
end ImageryJobs
