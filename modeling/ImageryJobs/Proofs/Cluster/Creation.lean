import ImageryJobs.Proofs.Cluster.Objects
import ImageryJobs.Proofs.Cluster.Waits

/-!
What creating an object sends. The document is posted once. If the name is taken, a shared object is
taken over; another is removed with its pods, seen to be gone, and the document is posted again, once.
-/

namespace ImageryJobs

open ClusterScript

/-- Whether this was to create something. -/
def Exchange.isPost (x : Exchange) : Bool := x.request.verb = .post

namespace Calling

variable {sent : List Exchange}

theorem meetsOr_remove_traced (path : String) :
    MeetsOr tracing (remove path) sent
      (fun _ sent' => ∃ reply, isGone reply = true ∧ sent' = sent ++ [⟨.delete path, reply⟩])
      fun _ _ => True := by
  have step : tracing.Step (· = sent) (.send (.delete path)) fun (reply : Reply) sent' =>
      if isGone reply then ∃ reply, isGone reply = true ∧ sent' = sent ++ [⟨.delete path, reply⟩]
      else True := by
    rintro _ rfl
    refine ⟨trivial, fun reply sent' moved => ?_⟩
    dsimp only
    split
    case isTrue gone => exact ⟨reply, gone, moved⟩
    case isFalse => trivial
  exact meetsOr_remove step rfl

theorem meetsOr_removeEach_traced (path : String → String) (names : List String) :
    MeetsOr tracing (names.forM fun name => remove (path name)) sent
      (fun _ sent' => ∃ deletions, sent' = sent ++ deletions ∧ List.Forall₂
        (fun name x => x.request = .delete (path name) ∧ isGone x.reply = true) names deletions)
      fun _ _ => True := by
  induction names generalizing sent with
  | nil => exact ⟨[], (List.append_nil _).symm, .nil⟩
  | cons name names ih =>
      refine meetsOr_bind.2 ((meetsOr_remove_traced (path name)).mono ?_ fun _ _ h => h)
      rintro _ _ ⟨reply, gone, rfl⟩
      refine ih.mono ?_ fun _ _ h => h
      rintro _ _ ⟨deletions, rfl, deleted⟩
      exact ⟨_ :: deletions, by rw [List.append_assoc]; rfl, .cons ⟨rfl, gone⟩ deleted⟩

end Calling

namespace Resource

variable {ns : String} {t : Template} {w : Watch} {r r' : Resource}
  {log : List (Event clusterInterface)} {watch : Bool}

/-! ### Removing -/

/-- The object is gone and so is every pod that was listed for it, as the answers to their deletions
tell. -/
inductive Removed (ns : String) (t : Template) : List Exchange → Prop where
  | alone {reply : Reply} (podless : t.podSelector = none) (gone : Calling.isGone reply = true) :
      Removed ns t [⟨.delete (t.kind.instancePath ns t.name), reply⟩]
  | withPods {selector : String} {reply pods : Reply} {items : List Json} {deletions : List Exchange}
      (selects : t.podSelector = some selector) (gone : Calling.isGone reply = true)
      (listed : Calling.listed pods = .ok items)
      (deleted : List.Forall₂ (fun name x => x.request = .delete (podPath ns name) ∧
        Calling.isGone x.reply = true) (items.filterMap Template.nameOf) deletions) :
      Removed ns t (⟨.delete (t.kind.instancePath ns t.name), reply⟩ ::
        ⟨.get (listPath (podsPath ns) selector), pods⟩ :: deletions)

theorem meetsOr_removeAll_traced :
    MeetsOr tracing (removeAll ns r) [] (fun _ sent => Removed ns r.template sent)
      fun _ _ => True := by
  refine meetsOr_bind.2 ((Calling.meetsOr_remove_traced _).mono ?_ fun _ _ h => h)
  rintro _ _ ⟨reply, gone, rfl⟩
  cases hs : r.template.podSelector with
  | none => exact .alone hs gone
  | some selector =>
      refine meetsOr_bind.2 (Calling.meetsOr_list.2 ⟨trivial, ?_⟩)
      rintro pods _ rfl
      cases hl : Calling.listed pods with
      | error e => trivial
      | ok items =>
          refine (Calling.meetsOr_removeEach_traced _ _).mono ?_ fun _ _ h => h
          rintro _ _ ⟨deletions, rfl, deleted⟩
          exact .withPods hs gone hl deleted

theorem ran_removeAll_ok (h : (removeAll ns r).run.Ran log (.ok ())) :
    Removed ns r.template (traffic log) :=
  traced meetsOr_removeAll_traced h

theorem Removed.isPost {sent : List Exchange} (h : Removed ns t sent) :
    ∀ x ∈ sent, x.isPost = false := by
  cases h with
  | alone => exact List.forall_mem_singleton.2 rfl
  | @withPods selector reply pods items deletions selects gone listed deleted =>
      -- The induction is on the pods that were listed, a deletion for each.
      have each : ∀ x ∈ deletions, x.isPost = false := by
        generalize items.filterMap Template.nameOf = names at deleted
        induction deleted with
        | nil => exact List.forall_mem_nil _
        | cons first _ ih =>
            refine List.forall_mem_cons.2 ⟨?_, ih⟩
            rw [Exchange.isPost, first.1]
            rfl
      exact List.forall_mem_cons.2 ⟨rfl, List.forall_mem_cons.2 ⟨rfl, each⟩⟩

/-- After looks that found the object, one that did not. -/
def Vanished (ns : String) (t : Template) (sent : List Exchange) : Prop :=
  ∃ looks e, sent = looks ++ [⟨.get (t.kind.instancePath ns t.name), .error e⟩] ∧
    e.isNotFound = true ∧ ∀ x ∈ looks, x.request = .get (t.kind.instancePath ns t.name) ∧
      ∃ document, x.reply = .ok document

theorem Vanished.isPost {sent : List Exchange} (h : Vanished ns t sent) :
    ∀ x ∈ sent, x.isPost = false := by
  obtain ⟨looks, e, rfl, -, found⟩ := h
  refine List.forall_mem_append.2 ⟨fun x hx => ?_, List.forall_mem_singleton.2 rfl⟩
  rw [Exchange.isPost, (found x hx).1]
  rfl

theorem ran_waitGone_ok (h : (waitGone ns w r).run.Ran log (.ok ())) :
    Vanished ns r.template (traffic log) := by
  obtain ⟨polls, p, idle, -, verdict, hsent⟩ := (ran_waitGone h).of_ok
  cases p with
  | ok document => cases verdict
  | error e =>
      refine ⟨_, e, hsent, ?_, fun x hx => ?_⟩
      · cases hn : e.isNotFound with
        | true => rfl
        | false => simp [Template.goneWait, Template.goneVerdict, hn] at verdict
      · obtain ⟨reply, hreply, hx⟩ := List.mem_flatMap.1 hx
        obtain rfl := List.mem_singleton.1 hx
        cases reply with
        | ok document => exact ⟨rfl, document, rfl⟩
        | error e => cases (idle _ hreply).2

/-! ### Posting -/

/-- The document was posted. -/
def posting (ns : String) (t : Template) (reply : Reply) : Exchange :=
  ⟨.post (t.kind.collectionPath ns) t.document, reply⟩

/-- What comes of posting the document for the second time. -/
def resubmitted (t : Template) : Reply → Except LifecycleError Unit
  | .ok _ => .ok ()
  | .error e => .error (if e.isConflict then .conflict t.kind t.name else .cluster e)

/-- What was sent to bring the object into the cluster, and what came of it. -/
inductive Submission (ns : String) (t : Template) : List Exchange → Except LifecycleError Unit → Prop
    where
  | accepted (document : Document) : Submission ns t [posting ns t (.ok document)] (.ok ())
  | refused {e : ClusterError} (other : e.isConflict = false) :
      Submission ns t [posting ns t (.error e)] (.error (.cluster e))
  | taken {e : ClusterError} (conflict : e.isConflict = true) (shared : t.shared = true) :
      Submission ns t [posting ns t (.error e)] (.ok ())
  /-- The object in the way could not be removed. -/
  | blocked {e : ClusterError} {tail : List Exchange} {cause : LifecycleError}
      (conflict : e.isConflict = true) (unshared : t.shared = false)
      (clears : ∀ x ∈ tail, Clears ns t.kind t.name x.request)
      (other : cause.endsWait = true) :
      Submission ns t (posting ns t (.error e) :: tail) (.error cause)
  | replaced {e : ClusterError} {removal gone : List Exchange} (conflict : e.isConflict = true)
      (unshared : t.shared = false) (removed : Removed ns t removal) (vanished : Vanished ns t gone)
      (reply : Reply) :
      Submission ns t (posting ns t (.error e) :: (removal ++ gone ++ [posting ns t reply]))
        (resubmitted t reply)

@[simp] theorem ranWith_fail {α : Type} {e : LifecycleError} {result : Except LifecycleError α} :
    RanWith (fail e) r log result r' ↔
      log = [] ∧ result = .error e ∧ r' = r.withStatus .error := by
  rw [fail, ranWith_modify_bind, ranWith_throw]

theorem ran_replace {result : Except LifecycleError Unit} (h : RanWith (replace ns w) r log result r') :
    (∃ cause, result = .error cause ∧ cause.endsWait = true ∧
      (∀ x ∈ traffic log, Clears ns r.template.kind r.template.name x.request) ∧ r' = r) ∨
    ∃ removal gone reply, Removed ns r.template removal ∧ Vanished ns r.template gone ∧
      traffic log = removal ++ gone ++ [posting ns r.template reply] ∧
      result = resubmitted r.template reply ∧ ∀ e, reply = .error e → r'.status = .error := by
  obtain ⟨e, removal, rfl⟩ | ⟨log₁, _, r₁, log₂, rfl, removal, waits⟩ :=
    ranWith_bind.1 (ranWith_get_bind.1 h)
  · obtain ⟨first, ran, heq, same⟩ := Managing.ranWith_ofCall.1 removal
    refine .inl ⟨e, rfl, ?_, sends_removeAll _ _ _ ran, same⟩
    cases first with
    | ok value => cases heq
    | error cause =>
        cases heq
        rfl
  obtain ⟨first, ran, heq, rfl⟩ := Managing.ranWith_ofCall.1 removal
  have clears := sends_removeAll _ _ _ ran
  cases first with
  | error e => cases heq
  | ok value =>
      obtain ⟨e, wait, rfl⟩ | ⟨log₃, _, r₂, log₄, rfl, wait, posts⟩ := ranWith_bind.1 waits
      · obtain ⟨wait, same⟩ := ranWith_mk_liftM.1 wait
        refine .inl ⟨e, rfl, Template.endsWait_of_goneWait (ran_waitGone wait), fun x hx => ?_, same⟩
        rw [traffic_append, List.mem_append] at hx
        exact hx.elim (clears x) fun hx => .inl (sends_waitGone _ _ _ wait x hx)
      · obtain ⟨wait, rfl⟩ := ranWith_mk_liftM.1 wait
        obtain ⟨log₅, reply, log₆, rfl, post, answered⟩ := ranWith_liftM_bind.1 posts
        refine .inr ⟨traffic log₁, traffic log₃, reply, ran_removeAll_ok ran, ran_waitGone_ok wait, ?_⟩
        have ends : log₆ = [] ∧ result = resubmitted r₂.template reply ∧
            ∀ e, reply = .error e → r'.status = .error := by
          cases reply with
          | ok document => exact ⟨(ranWith_pure.1 answered).1, (ranWith_pure.1 answered).2.1, nofun⟩
          | error e =>
              obtain ⟨rfl, rfl, rfl⟩ := ranWith_fail.1 answered
              exact ⟨rfl, rfl, fun _ _ => rfl⟩
        refine ⟨?_, ends.2⟩
        rw [ends.1, List.append_nil, traffic_append, traffic_append, ran_send post, List.append_assoc]
        rfl

theorem ran_submit {result : Except LifecycleError Unit} (h : RanWith (submit ns w) r log result r') :
    Submission ns r.template (traffic log) result := by
  obtain ⟨log₁, reply, log₂, rfl, post, answered⟩ := ranWith_liftM_bind.1 (ranWith_get_bind.1 h)
  rw [traffic_append, ran_send post]
  cases reply with
  | ok document =>
      obtain ⟨rfl, rfl, -⟩ := ranWith_pure.1 answered
      exact .accepted document
  | error e =>
      dsimp only at answered
      cases hc : e.isConflict with
      | false =>
          simp only [hc, Bool.not_false, if_true] at answered
          obtain ⟨rfl, rfl, -⟩ := ranWith_fail.1 answered
          exact .refused hc
      | true =>
          simp only [hc, Bool.not_true, Bool.false_eq_true, if_false] at answered
          cases hs : r.template.shared with
          | true =>
              simp only [hs, if_true] at answered
              obtain ⟨rfl, rfl, -⟩ := ranWith_pure.1 answered
              exact .taken hc hs
          | false =>
              simp only [hs, Bool.false_eq_true, if_false] at answered
              obtain ⟨cause, rfl, other, clears, -⟩ |
                ⟨removal, gone, again, removed, vanished, hlog, rfl, -⟩ := ran_replace answered
              · exact .blocked hc hs clears other
              · rw [hlog]
                exact .replaced hc hs removed vanished again

/-! ### Creating -/

/-- What follows once the cluster has the object. -/
def settle (ns : String) (watch : Bool) (w : Watch) : Managing LifecycleError Unit := do
  modify fun r => { r with
    collection := r.kind.collectionPath ns
    object := some (r.path ns)
    pod := none
    status := .created }
  if watch then
    let _ ← waitReady ns w

theorem create_eq : create ns watch w = submit ns w >>= fun _ => settle ns watch w := rfl

/-- What was sent to create an object, and what came of it. -/
inductive Creation (ns : String) (t : Template) (watch : Bool) (w : Watch) :
    List Exchange → Except LifecycleError Unit → Prop where
  | failed {sent : List Exchange} {e : LifecycleError} (submission : Submission ns t sent (.error e)) :
      Creation ns t watch w sent (.error e)
  | unwatched {sent : List Exchange} (submission : Submission ns t sent (.ok ()))
      (unwatched : watch = false) : Creation ns t watch w sent (.ok ())
  | watched {sent looks : List Exchange} {ready : Except LifecycleError Json}
      (submission : Submission ns t sent (.ok ())) (watched : watch = true)
      (wait : (t.readyWait ns w).Ends looks ready) :
      Creation ns t watch w (sent ++ looks) (ready.map fun _ => ())

theorem ran_create {result : Except LifecycleError Unit}
    (h : RanWith (create ns watch w) r log result r') :
    Creation ns r.template watch w (traffic log) result := by
  obtain ⟨e, submission, rfl⟩ | ⟨log₁, _, r₁, log₂, rfl, submission, settles⟩ := ranWith_bind.1 h
  · exact .failed (ran_submit submission)
  have ht : r₁.template = r.template := (keeps_submit r rfl _ _ _ submission).1
  have settles := ranWith_modify_bind.1 settles
  cases watch with
  | false =>
      obtain ⟨rfl, rfl, -⟩ := ranWith_pure.1 settles
      rw [List.append_nil]
      exact .unwatched (ran_submit submission) rfl
  | true =>
      rw [traffic_append, ← ht]
      obtain ⟨e, wait, rfl⟩ | ⟨log₃, object, r₂, log₄, rfl, wait, done⟩ := ranWith_bind.1 settles
      · exact .watched (ht ▸ ran_submit submission) rfl (ran_waitReady wait)
      · obtain ⟨rfl, rfl, -⟩ := ranWith_pure.1 done
        rw [List.append_nil]
        exact .watched (ht ▸ ran_submit submission) rfl (ran_waitReady wait)

/-- Once the cluster has the object, it is only looked at. -/
theorem Creation.submission {sent : List Exchange} {result : Except LifecycleError Unit}
    (h : Creation ns t watch w sent result) :
    ∃ posted looks submitted, Submission ns t posted submitted ∧ sent = posted ++ looks ∧
      (∀ x ∈ looks, x.request.Reads) ∧
      (∀ e, submitted = .error e → looks = [] ∧ result = .error e) ∧
      (submitted = .ok () → (∀ e, result = .error e → e.endsWait = true) ∧
        (watch = true → ∃ ready, (t.readyWait ns w).Ends looks ready ∧
          result = ready.map fun _ => ())) := by
  cases h with
  | failed submission =>
      exact ⟨_, [], _, submission, (List.append_nil _).symm, List.forall_mem_nil _,
        fun e heq => ⟨rfl, heq⟩, nofun⟩
  | unwatched submission unwatched =>
      refine ⟨_, [], _, submission, (List.append_nil _).symm, List.forall_mem_nil _, nofun,
        fun _ => ⟨nofun, fun watched => ?_⟩⟩
      rw [unwatched] at watched
      cases watched
  | @watched posted looks ready submission watched wait =>
      refine ⟨posted, looks, _, submission, rfl, wait.forall_mem fun _ => Template.reads_exchanges,
        nofun, fun _ => ⟨fun e heq => ?_, fun _ => ⟨ready, wait, rfl⟩⟩⟩
      cases ready with
      | ok object => cases heq
      | error cause =>
          cases heq
          exact Template.endsWait_of_readyWait wait

/-- The document was posted once. -/
structure Once (ns : String) (t : Template) (watch : Bool) (w : Watch) (first : Reply)
    (tail : List Exchange) (result : Except LifecycleError Unit) : Prop where
  single : ∀ x ∈ tail, x.isPost = false
  resolved : ∀ kind name, result ≠ .error (.conflict kind name)
  refused : ∀ e, first = .error e → e.isConflict = false → tail = [] ∧ result = .error (.cluster e)
  spared : t.shared = true → ∀ x ∈ tail, x.request.Reads
  watched : watch = true → ∀ document, first = .ok document →
    ∃ ready, (t.readyWait ns w).Ends tail ready ∧ result = ready.map fun _ => ()

/-- The document was posted again when what was in the way was gone. -/
structure Twice (ns : String) (t : Template) (watch : Bool) (w : Watch) (e : ClusterError)
    (removal gone : List Exchange) (second : Reply) (tail : List Exchange)
    (result : Except LifecycleError Unit) : Prop where
  conflict : e.isConflict = true
  unshared : t.shared = false
  removed : Removed ns t removal
  vanished : Vanished ns t gone
  single : ∀ x ∈ tail, x.isPost = false
  refused : ∀ e, second = .error e →
    tail = [] ∧ result = .error (if e.isConflict then .conflict t.kind t.name else .cluster e)
  accepted : ∀ document, second = .ok document → ∀ kind name, result ≠ .error (.conflict kind name)
  watched : watch = true → ∀ document, second = .ok document →
    ∃ ready, (t.readyWait ns w).Ends tail ready ∧ result = ready.map fun _ => ()

theorem isPost_of_reads {x : Exchange} (h : x.request.Reads) : x.isPost = false := by
  rw [Exchange.isPost, show x.request.verb = .get from h]
  rfl

theorem isPost_of_clears {x : Exchange} {kind : ResourceKind} {name : String}
    (h : Clears ns kind name x.request) : x.isPost = false := by
  obtain h | h | ⟨pod, h⟩ := h
  · exact isPost_of_reads h
  · rw [Exchange.isPost, show x.request = _ from h]
    rfl
  · rw [Exchange.isPost, show x.request = _ from h]
    rfl

theorem Creation.once_or_twice {sent : List Exchange} {result : Except LifecycleError Unit}
    (h : Creation ns t watch w sent result) :
    (∃ first tail, sent = posting ns t first :: tail ∧ Once ns t watch w first tail result) ∨
    ∃ e removal gone second tail,
      sent = posting ns t (.error e) :: (removal ++ gone ++ posting ns t second :: tail) ∧
      Twice ns t watch w e removal gone second tail result := by
  obtain ⟨posted, looks, submitted, submission, rfl, reads, failed, goes⟩ := h.submission
  -- Once the object is there, only the wait can fail, and a wait does not tell of conflicts.
  have succeeded (posted : submitted = .ok ()) (kind : ResourceKind) (name : String) :
      result ≠ .error (.conflict kind name) := fun heq => by
    cases (goes posted).1 _ heq
  have single : ∀ x ∈ looks, x.isPost = false := fun x hx => isPost_of_reads (reads x hx)
  cases submission with
  | accepted document =>
      exact .inl ⟨_, looks, rfl, single, succeeded rfl, nofun, fun _ => reads,
        fun watched _ _ => (goes rfl).2 watched⟩
  | @refused e other =>
      obtain ⟨rfl, rfl⟩ := failed _ rfl
      refine .inl ⟨_, [], rfl, List.forall_mem_nil _, nofun, ?_, fun _ => List.forall_mem_nil _, nofun⟩
      rintro _ ⟨⟩ -
      exact ⟨rfl, rfl⟩
  | @taken e conflict shared =>
      refine .inl ⟨_, looks, rfl, single, succeeded rfl, ?_, fun _ => reads, nofun⟩
      rintro _ ⟨⟩ other
      rw [conflict] at other
      cases other
  | @blocked e tail cause conflict unshared clears other =>
      obtain ⟨rfl, rfl⟩ := failed _ rfl
      rw [List.append_nil]
      refine .inl ⟨_, tail, rfl, fun x hx => isPost_of_clears (clears x hx), ?_, ?_,
        fun shared => ?_, nofun⟩
      · rintro kind name ⟨⟩
        cases other
      · rintro _ ⟨⟩ other
        rw [conflict] at other
        cases other
      · rw [unshared] at shared
        cases shared
  | @replaced e removal gone conflict unshared removed vanished reply =>
      refine .inr ⟨e, removal, gone, reply, looks, by simp, conflict, unshared, removed, vanished,
        single, ?_, ?_, ?_⟩
      · rintro _ rfl
        exact failed _ rfl
      · rintro document rfl
        exact succeeded rfl
      · rintro watched document rfl
        exact (goes rfl).2 watched

/-! ### The name is taken -/

/-- Where the cluster has the object by the answer, the creation goes on from there. -/
theorem ranWith_create_of_answer {reply : Reply} {result : Except LifecycleError Unit}
    (has : (∃ document, reply = .ok document) ∨
      r.template.shared = true ∧ ∃ e, reply = .error e ∧ e.isConflict = true) :
    RanWith (create ns watch w) r
        (⟨.send (.post (r.template.kind.collectionPath ns) r.template.document), reply⟩ :: log) result r' ↔
      RanWith (settle ns watch w) r log result r' := by
  let next (reply : Reply) : Managing LifecycleError Unit :=
    match reply with
    | .ok _ => pure ()
    | .error e =>
        if !e.isConflict then fail (.cluster e)
        else if r.template.shared then pure ()
        else replace ns w
  have asks : (submit ns w).run.run r =
      .ask (.send (.post (r.template.kind.collectionPath ns) r.template.document))
        fun reply => (next reply).run.run r := rfl
  have goes : (next reply).run.run r = .done (.ok (), r) := by
    obtain ⟨document, rfl⟩ | ⟨shared, e, rfl, conflict⟩ := has
    · rfl
    · simp only [next, conflict, shared, Bool.not_true, Bool.false_eq_true, if_false, if_true]
      rfl
  rw [create_eq, RanWith, ExceptT.run_bind, StateT.run_bind, asks, Script.ask_bind]
  constructor
  · intro ran
    obtain ⟨_, _, heq, rest⟩ := Script.ran_ask.1 ran
    cases heq
    rw [goes] at rest
    exact rest
  · intro ran
    refine Script.ran_ask.2 ⟨reply, log, rfl, ?_⟩
    rw [goes]
    exact ran

/-- What was sent to create something. -/
def posts (sent : List Exchange) : List Exchange := sent.filter Exchange.isPost

theorem posts_eq_nil {sent : List Exchange} (h : ∀ x ∈ sent, x.isPost = false) : posts sent = [] :=
  List.filter_eq_nil_iff.2 fun x hx => by simp [h x hx]

section

variable {a b x : Exchange} {mid tail before after : List Exchange}

theorem split_once (single : ∀ y ∈ tail, y.isPost = false) (h : a :: tail = before ++ x :: after)
    (hx : x.isPost = true) : before = [] ∧ x = a ∧ after = tail := by
  cases before with
  | nil =>
      cases h
      exact ⟨rfl, rfl, rfl⟩
  | cons y before =>
      cases h
      have other := single x (by simp)
      rw [hx] at other
      cases other

theorem split_twice (between : ∀ y ∈ mid, y.isPost = false) (single : ∀ y ∈ tail, y.isPost = false)
    (h : a :: (mid ++ b :: tail) = before ++ x :: after) (hx : x.isPost = true) :
    (before = [] ∧ x = a) ∨ (before = a :: mid ∧ x = b ∧ after = tail) := by
  cases before with
  | nil =>
      cases h
      exact .inl ⟨rfl, rfl⟩
  | cons y before =>
      obtain ⟨rfl, rest⟩ := List.cons.inj h
      have absent {l : List Exchange} (none : ∀ y ∈ l, y.isPost = false) : x ∉ l := fun hmem => by
        have other := none x hmem
        rw [hx] at other
        cases other
      obtain ⟨rfl, rfl, rfl⟩ :=
        (List.append_cons_inj_of_notMem (absent between) (absent single)).1 rest
      exact .inr ⟨rfl, rfl, rfl⟩

end

/-- What is neither before nor after is in the middle. -/
theorem split_within {P : Exchange → Prop} {first last : List Exchange} (left : ∀ y ∈ first, ¬ P y)
    (right : ∀ y ∈ last, ¬ P y) (h : first ++ (mid ++ last) = before ++ x :: after) (hx : P x) :
    ∃ past rest, before = first ++ past ∧ mid = past ++ x :: rest ∧ after = rest ++ last := by
  have absent {l : List Exchange} (hl : ∀ y ∈ l, ¬ P y) : x ∉ l := fun hmem => hl x hmem hx
  have begun : ∃ past, before = first ++ past ∧ mid ++ last = past ++ x :: after := by
    obtain ⟨past, hbefore, hrest⟩ | ⟨_ | ⟨y, more⟩, hfirst, hrest⟩ := List.append_eq_append_iff.1 h
    · exact ⟨past, hbefore, hrest⟩
    · exact ⟨[], by simpa using hfirst.symm, hrest.symm⟩
    · cases hrest
      exact (absent left (by simp [hfirst])).elim
  obtain ⟨past, hbefore, hrest⟩ := begun
  obtain ⟨more, -, hlast⟩ | ⟨_ | ⟨y, rest⟩, hmid, hlast⟩ := List.append_eq_append_iff.1 hrest
  · exact (absent right (by simp [hlast])).elim
  · exact (absent right (by rw [← List.nil_append last, ← hlast]; simp)).elim
  · cases hlast
    exact ⟨past, rest, hbefore, hmid, rfl⟩

theorem posts_once {tail : List Exchange} (single : ∀ x ∈ tail, x.isPost = false) (first : Reply) :
    posts (posting ns t first :: tail) = [posting ns t first] :=
  congrArg (List.cons _) (posts_eq_nil single)

theorem Once.posts {first : Reply} {tail : List Exchange} {result : Except LifecycleError Unit}
    (h : Once ns t watch w first tail result) :
    posts (posting ns t first :: tail) = [posting ns t first] :=
  posts_once h.single first

/-- When something is replaced, the document is posted before and after. -/
theorem posts_twice {removal gone tail : List Exchange} (removed : Removed ns t removal)
    (vanished : Vanished ns t gone) (single : ∀ x ∈ tail, x.isPost = false) (first second : Reply) :
    posts (posting ns t first :: (removal ++ gone ++ posting ns t second :: tail)) =
      [posting ns t first, posting ns t second] := by
  have before := posts_eq_nil (List.forall_mem_append.2 ⟨removed.isPost, vanished.isPost⟩)
  have after := posts_eq_nil single
  unfold posts at before after ⊢
  rw [List.filter_cons_of_pos rfl, List.filter_append, before, List.filter_cons_of_pos rfl, after]
  rfl

theorem Twice.between {e : ClusterError} {removal gone tail : List Exchange} {second : Reply}
    {result : Except LifecycleError Unit} (h : Twice ns t watch w e removal gone second tail result) :
    ∀ x ∈ removal ++ gone, x.isPost = false :=
  List.forall_mem_append.2 ⟨h.removed.isPost, h.vanished.isPost⟩

theorem Twice.posts {e : ClusterError} {removal gone tail : List Exchange} {second : Reply}
    {result : Except LifecycleError Unit} (h : Twice ns t watch w e removal gone second tail result) :
    posts (posting ns t (.error e) :: (removal ++ gone ++ posting ns t second :: tail)) =
      [posting ns t (.error e), posting ns t second] :=
  posts_twice h.removed h.vanished h.single _ _

section

variable {sent before after : List Exchange} {x : Exchange} {result : Except LifecycleError Unit}

theorem Creation.posts (h : Creation ns t watch w sent result) :
    ∃ first more, posts sent = posting ns t first :: more ∧
      (more = [] ∨ ∃ second, more = [posting ns t second]) := by
  obtain ⟨first, tail, rfl, once⟩ | ⟨e, removal, gone, second, tail, rfl, twice⟩ := h.once_or_twice
  · exact ⟨first, [], once.posts, .inl rfl⟩
  · exact ⟨.error e, _, twice.posts, .inr ⟨second, rfl⟩⟩

theorem Creation.exists_posting (h : Creation ns t watch w sent result) :
    ∃ reply tail, sent = posting ns t reply :: tail := by
  obtain ⟨first, tail, hsent, -⟩ | ⟨e, removal, gone, second, tail, hsent, -⟩ := h.once_or_twice
  · exact ⟨first, tail, hsent⟩
  · exact ⟨.error e, _, hsent⟩

theorem Creation.request_of_isPost (h : Creation ns t watch w sent result) (hmem : x ∈ sent)
    (hx : x.isPost = true) : x.request = .post (t.kind.collectionPath ns) t.document := by
  obtain ⟨first, more, hposts, few⟩ := h.posts
  have hmem : x ∈ posting ns t first :: more := hposts ▸ List.mem_filter.2 ⟨hmem, hx⟩
  obtain rfl | hmem := List.mem_cons.1 hmem
  · rfl
  · obtain rfl | ⟨second, rfl⟩ := few
    · cases hmem
    · obtain rfl := List.mem_singleton.1 hmem
      rfl

/-- The document is posted again only when what was in the way is gone. -/
theorem Creation.post_again (h : Creation ns t watch w sent result)
    (split : sent = before ++ x :: after) (hx : x.isPost = true) (again : Resource.posts before ≠ []) :
    t.shared = false ∧ ∃ e removal gone, e.isConflict = true ∧
      before = posting ns t (.error e) :: (removal ++ gone) ∧ Removed ns t removal ∧
        Vanished ns t gone := by
  obtain ⟨first, tail, rfl, once⟩ | ⟨e, removal, gone, second, tail, rfl, twice⟩ := h.once_or_twice
  · obtain ⟨rfl, -⟩ := split_once once.single split hx
    exact absurd rfl again
  · obtain ⟨rfl, -⟩ | ⟨rfl, -⟩ := split_twice twice.between twice.single split hx
    · exact absurd rfl again
    · exact ⟨twice.unshared, e, removal, gone, twice.conflict, rfl, twice.removed, twice.vanished⟩

/-- A post that fails, but not because the name is taken, ends the creation. -/
theorem Creation.post_refused (h : Creation ns t watch w sent result)
    (split : sent = before ++ x :: after) (hx : x.isPost = true) {e : ClusterError}
    (hreply : x.reply = .error e) (other : e.isConflict = false) :
    after = [] ∧ result = .error (.cluster e) := by
  obtain ⟨first, tail, rfl, once⟩ | ⟨cause, removal, gone, second, tail, rfl, twice⟩ := h.once_or_twice
  · obtain ⟨-, rfl, rfl⟩ := split_once once.single split hx
    exact once.refused e hreply other
  · obtain ⟨-, rfl⟩ | ⟨-, rfl, rfl⟩ := split_twice twice.between twice.single split hx
    · cases hreply
      rw [twice.conflict] at other
      cases other
    · simpa [other] using twice.refused e hreply

/-- Once a post is accepted the object is waited for, and the creation ends as the wait does. -/
theorem Creation.post_accepted (h : Creation ns t true w sent result)
    (split : sent = before ++ x :: after) (hx : x.isPost = true) {document : Document} (hreply : x.reply = .ok document) :
    ∃ ready, (t.readyWait ns w).Ends after ready ∧ result = ready.map fun _ => () := by
  obtain ⟨first, tail, rfl, once⟩ | ⟨cause, removal, gone, second, tail, rfl, twice⟩ := h.once_or_twice
  · obtain ⟨-, rfl, rfl⟩ := split_once once.single split hx
    exact once.watched rfl document hreply
  · obtain ⟨-, rfl⟩ | ⟨-, rfl, rfl⟩ := split_twice twice.between twice.single split hx
    · cases hreply
    · exact twice.watched rfl document hreply

theorem Creation.of_ok (h : Creation ns t true w sent (.ok ())) :
    ∃ posted looks object, sent = posted ++ looks ∧ (t.readyWait ns w).Ends looks (.ok object) := by
  obtain ⟨posted, looks, submitted, -, rfl, -, failed, goes⟩ := h.submission
  cases submitted with
  | error e => cases (failed e rfl).2
  | ok value =>
      obtain ⟨ready, wait, hready⟩ := (goes rfl).2 rfl
      cases ready with
      | error e => cases hready
      | ok object => exact ⟨posted, looks, object, rfl, wait⟩

theorem Creation.ne_missingField {e : LifecycleError} (h : Creation ns t watch w sent (.error e))
    (kind : ResourceKind) (name field : String) : e ≠ .missingField kind name field := by
  rintro rfl
  obtain ⟨posted, looks, submitted, submission, -, -, failed, goes⟩ := h.submission
  cases submitted with
  | ok value => cases (goes rfl).1 _ rfl
  | error e =>
      cases (failed e rfl).2
      generalize hr : (Except.error _ : Except LifecycleError Unit) = submitted at submission
      cases submission with
      | accepted | taken => cases hr
      | refused other => cases hr
      | blocked conflict unshared clears other =>
          cases hr
          cases other
      | replaced conflict unshared removed vanished reply =>
          cases reply with
          | ok document => cases hr
          | error e => cases hc : e.isConflict <;> simp [resubmitted, hc] at hr

/-- That the name is taken is told only if it was taken the second time. -/
theorem Creation.conflict_iff (h : Creation ns t watch w sent result) (kind : ResourceKind)
    (name : String) :
    result = .error (.conflict kind name) ↔ kind = t.kind ∧ name = t.name ∧ ∃ first e,
      Resource.posts sent = [first, posting ns t (.error e)] ∧ e.isConflict = true := by
  obtain ⟨first, tail, rfl, once⟩ | ⟨cause, removal, gone, second, tail, rfl, twice⟩ := h.once_or_twice
  · refine iff_of_false (once.resolved kind name) ?_
    rintro ⟨-, -, first, e, heq, -⟩
    rw [once.posts] at heq
    cases heq
  · rw [twice.posts]
    constructor
    · intro heq
      cases second with
      | ok document => exact absurd heq (twice.accepted document rfl kind name)
      | error e =>
          obtain ⟨-, hresult⟩ := twice.refused e rfl
          cases hc : e.isConflict with
          | false => simp [hresult, hc] at heq
          | true =>
              obtain ⟨rfl, rfl⟩ : t.kind = kind ∧ t.name = name := by simpa [hresult, hc] using heq
              exact ⟨rfl, rfl, _, e, rfl, hc⟩
    · rintro ⟨rfl, rfl, first, e, heq, conflict⟩
      cases heq
      simpa [conflict] using (twice.refused e rfl).2

theorem Creation.of_shared (h : Creation ns t watch w sent result) (shared : t.shared = true) :
    (∃ reply, Resource.posts sent = [posting ns t reply]) ∧ (∀ x ∈ sent, x.request.verb ≠ .delete) ∧
      ∀ kind name, result ≠ .error (.conflict kind name) := by
  obtain ⟨first, tail, rfl, once⟩ | ⟨cause, removal, gone, second, tail, rfl, twice⟩ := h.once_or_twice
  · refine ⟨⟨first, once.posts⟩, List.forall_mem_cons.2 ⟨nofun, fun x hx => ?_⟩, once.resolved⟩
    rw [show x.request.verb = .get from once.spared shared x hx]
    nofun
  · have unshared := twice.unshared
    rw [shared] at unshared
    cases unshared

end

/-- However the cluster answers, the document is posted once, or once more when a 409 was answered to
the first post of an unshared object and what was in the way was removed and seen to be gone. Only a 409
to the second post is a conflict; any other failure of a post ends the creation with it. A shared object
is posted once, never removed, and taken over after a 409 as if it had been created. -/
theorem create_conflicts {result : Except LifecycleError Unit}
    (h : RanWith (create ns watch w) r log result r') :
    (posts (traffic log)).length ≤ 2 ∧
    (∀ x ∈ traffic log, x.isPost = true →
      x.request = .post (r.template.kind.collectionPath ns) r.template.document) ∧
    (∀ before x after, traffic log = before ++ x :: after → x.isPost = true →
      (posts before ≠ [] → r.template.shared = false ∧ ∃ e removal gone, e.isConflict = true ∧
        before = posting ns r.template (.error e) :: (removal ++ gone) ∧
        Removed ns r.template removal ∧ Vanished ns r.template gone) ∧
      ∀ e, x.reply = .error e → e.isConflict = false → after = [] ∧ result = .error (.cluster e)) ∧
    (∀ kind name, result = .error (.conflict kind name) ↔
      kind = r.template.kind ∧ name = r.template.name ∧ ∃ first e,
        posts (traffic log) = [first, posting ns r.template (.error e)] ∧ e.isConflict = true) ∧
    (r.template.shared = true →
      ((∃ reply, posts (traffic log) = [posting ns r.template reply]) ∧
        (∀ x ∈ traffic log, x.request.verb ≠ .delete) ∧
        ∀ kind name, result ≠ .error (.conflict kind name)) ∧
      ∀ e document log result r', e.isConflict = true →
        (RanWith (create ns watch w) r
            (⟨.send (.post (r.template.kind.collectionPath ns) r.template.document), .error e⟩ :: log)
            result r' ↔
          RanWith (create ns watch w) r
            (⟨.send (.post (r.template.kind.collectionPath ns) r.template.document), .ok document⟩ :: log)
            result r')) := by
  have creation := ran_create h
  obtain ⟨first, more, hposts, few⟩ := creation.posts
  refine ⟨?_, fun x => creation.request_of_isPost,
    fun before x after split hx => ⟨creation.post_again split hx, fun e => ?_⟩,
    creation.conflict_iff, fun shared => ⟨creation.of_shared shared, fun e document log result r' hc => ?_⟩⟩
  · obtain rfl | ⟨second, rfl⟩ := few <;> simp [hposts]
  · exact creation.post_refused split hx
  · rw [ranWith_create_of_answer (.inr ⟨shared, e, rfl, hc⟩), ranWith_create_of_answer (.inl ⟨document, rfl⟩)]

/-- An object with a pod is in the way, is found once more after its removal, and is there again when the
document is posted for the second time. -/
def stubborn : Nat → (op : ClusterOp) → op.Answer
  | _, .pause _ => false
  | 0, .send _ | 8, .send _ => .error (.api 409 "")
  | 2, .send _ => .ok (.json (.mk [("items", .array [.mk [("metadata", .mk [("name", .string "p")])]])]))
  | 3, .send _ | 7, .send _ => .error (.api 404 "")
  | _, .send _ => .ok .empty

/-- A resource whose name is taken. -/
def takenResource : Resource :=
  .ofTemplate ⟨.batchJob, "a", .null, fun _ _ => .pending, some "s", false⟩

def stubbornRun : List (Event clusterInterface) × Except LifecycleError Unit × Resource :=
  ((create "ns" false ⟨10, 25⟩).run.run takenResource).play stubborn 0

theorem create_conflicts_sample :
    RanWith (create "ns" false ⟨10, 25⟩) takenResource stubbornRun.1 stubbornRun.2.1 stubbornRun.2.2 ∧
    (posts (traffic stubbornRun.1)).length ≤ 2 ∧ (traffic stubbornRun.1).length = 7 ∧
      stubbornRun.2.1 = .error (.conflict .batchJob "a") := by
  have ran : RanWith (create "ns" false ⟨10, 25⟩) takenResource stubbornRun.1 stubbornRun.2.1
      stubbornRun.2.2 := Script.ran_play (I := clusterInterface) stubborn 0 _
  exact ⟨ran, (create_conflicts ran).1, by decide +kernel, by decide +kernel⟩

end Resource
end ImageryJobs
