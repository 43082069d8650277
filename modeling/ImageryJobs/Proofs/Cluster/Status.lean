import ImageryJobs.Proofs.Cluster.Creation

/-!
How far an object counts as having come once its creation is over. If it is ready, it counts as
finished and is as the last look saw it; if the work was cancelled, it counts neither as finished nor
as failed. Of the other failures some leave no mark: what was in the way was not replaced, or the last
answer told of the object but could not be read.
-/

namespace ImageryJobs

open ClusterScript

/-- Neither finished nor failed. -/
def ResourceStatus.Underway (s : ResourceStatus) : Prop := s ≠ .finished ∧ s ≠ .error

/-- The status that a failure leaves behind. It tells of the failure, unless the work was cancelled or
the failure leaves no mark. -/
structure LifecycleError.Leaves (e : LifecycleError) (unmarked : Prop) (status : ResourceStatus) :
    Prop where
  unfinished : status ≠ .finished
  cancelled : e.isCancelled = true → status ≠ .error
  failed : e.isCancelled = false → (status = .error ↔ ¬ unmarked)

theorem LifecycleError.Leaves.congr {e : LifecycleError} {unmarked unmarked' : Prop}
    {status : ResourceStatus} (h : e.Leaves unmarked status) (same : unmarked ↔ unmarked') :
    e.Leaves unmarked' status :=
  ⟨h.unfinished, h.cancelled, fun other => (h.failed other).trans (not_congr same)⟩

theorem LifecycleError.leaves_error {e : LifecycleError} {unmarked : Prop}
    (other : e.isCancelled = false) (marked : ¬ unmarked) : e.Leaves unmarked .error :=
  ⟨nofun, fun cancelled => absurd (other.symm.trans cancelled) Bool.false_ne_true,
    fun _ => ⟨fun _ => marked, fun _ => rfl⟩⟩

theorem LifecycleError.leaves_underway {e : LifecycleError} {unmarked : Prop}
    {status : ResourceStatus} (underway : status.Underway)
    (h : e.isCancelled = false → unmarked) : e.Leaves unmarked status :=
  ⟨underway.1, fun _ => underway.2,
    fun other => ⟨fun failed => absurd failed underway.2, fun marked => absurd (h other) marked⟩⟩

namespace Template

/-- An answer that tells of the object but cannot be read: the object is no JSON, or its pods were
not listed. -/
def Unreadable (ns : String) (t : Template) (x : Exchange) : Prop :=
  (x.request = .get (t.kind.instancePath ns t.name) ∧
    ∃ document cause, x.reply = .ok document ∧ document.toJson = .error cause) ∨
  ∃ selector cause, t.podSelector = some selector ∧
    x.request = .get (listPath (podsPath ns) selector) ∧ Calling.listed x.reply = .error cause

def EndsUnread (ns : String) (t : Template) (sent : List Exchange) : Prop :=
  ∃ x, sent.getLast? = some x ∧ t.Unreadable ns x

/-- The document was refused because the name is taken, and was not posted again. -/
def Blocked (ns : String) (t : Template) (sent : List Exchange) : Prop :=
  t.shared = false ∧ ∃ e, e.isConflict = true ∧
    Resource.posts sent = [Resource.posting ns t (.error e)]

/-- The last look was answered with the object, and by its answers the object is ready. -/
def ShownReady (ns : String) (t : Template) (sent : List Exchange) (object : Json) : Prop :=
  ∃ before document pods found, sent = before ++ t.exchanges ns ⟨.ok document, pods⟩ ∧
    document.toJson = .ok object ∧ pods.isSome = t.podSelector.isSome ∧
    firstPod pods = .ok found ∧ t.readiness object found = .ready

variable {ns : String} {t : Template} {w : Watch} {sent looks : List Exchange} {p : Poll}
  {before : ResourceStatus}

/-! ### Looks -/

theorem endsUnread_concat {x : Exchange} : t.EndsUnread ns (sent ++ [x]) ↔ t.Unreadable ns x := by
  simp [EndsUnread]

theorem endsUnread_append (h : looks ≠ []) :
    t.EndsUnread ns (sent ++ looks) ↔ t.EndsUnread ns looks := by
  rw [EndsUnread, List.getLast?_append_of_ne_nil _ h, EndsUnread]

theorem not_endsUnread_nil : ¬ t.EndsUnread ns [] := by
  rintro ⟨x, hx, -⟩
  cases hx

theorem unreadable_object {reply : Reply} :
    t.Unreadable ns ⟨.get (t.kind.instancePath ns t.name), reply⟩ ↔
      ∃ document cause, reply = .ok document ∧ document.toJson = .error cause := by
  refine ⟨?_, fun h => .inl ⟨rfl, h⟩⟩
  rintro (⟨-, h⟩ | ⟨selector, cause, -, path, -⟩)
  · exact h
  · exact absurd (Request.mk.inj path).2.2.1.symm ResourceKind.listPods_ne_instancePath

theorem unreadable_pods {selector : String} (selects : t.podSelector = some selector)
    {reply : Reply} :
    t.Unreadable ns ⟨.get (listPath (podsPath ns) selector), reply⟩ ↔
      ∃ cause, Calling.listed reply = .error cause := by
  refine ⟨?_, fun ⟨cause, h⟩ => .inr ⟨selector, cause, selects, rfl, h⟩⟩
  rintro (⟨path, -⟩ | ⟨_, cause, -, -, h⟩)
  · exact absurd (Request.mk.inj path).2.2.1 ResourceKind.listPods_ne_instancePath
  · exact ⟨cause, h⟩

/-- After a look the last answer cannot be read just if the object was found and could not be
judged. -/
theorem endsUnread_exchanges (asked : t.Asked p) :
    t.EndsUnread ns (sent ++ t.exchanges ns p) ↔
      ∃ document cause, p.object = .ok document ∧ t.judge p.object p.pods = .error cause := by
  obtain ⟨object, pods⟩ := p
  have unasked (absent : ¬ ∃ value, object.bind Document.toJson = .ok value) : pods = none := by
    refine Option.not_isSome_iff_eq_none.1 fun some => absent (asked.1 some).2
  have alone (none : pods = none) :
      t.exchanges ns ⟨object, pods⟩ = [⟨.get (t.kind.instancePath ns t.name), object⟩] := by
    cases hs : t.podSelector <;> simp [exchanges, hs, none]
  cases object with
  | error e =>
      rw [alone (unasked (by simp [Except.bind])), endsUnread_concat, unreadable_object]
      simp
  | ok document =>
      cases hd : document.toJson with
      | error cause =>
          have none := unasked (by simp [Except.bind, hd])
          rw [alone none, endsUnread_concat, unreadable_object]
          simp [judge, hd, bind, Except.bind]
      | ok value =>
          have readable : ∃ value, (Except.ok document : Reply).bind Document.toJson = .ok value :=
            ⟨value, hd⟩
          cases hs : t.podSelector with
          | none =>
              have none : pods = none := by
                refine Option.not_isSome_iff_eq_none.1 fun some => ?_
                have selects := (asked.1 some).1
                rw [hs] at selects
                cases selects
              rw [alone none, endsUnread_concat, unreadable_object]
              simp [none, judge, hd, firstPod, bind, Except.bind, pure, Except.pure]
          | some selector =>
              obtain ⟨reply, rfl⟩ := Option.isSome_iff_exists.1
                (asked.2 ⟨by rw [hs]; rfl, readable⟩)
              have both : sent ++ t.exchanges ns ⟨.ok document, some reply⟩ =
                  sent ++ [⟨.get (t.kind.instancePath ns t.name), .ok document⟩] ++
                    [⟨.get (listPath (podsPath ns) selector), reply⟩] := by
                simp [exchanges, hs]
              rw [both, endsUnread_concat, unreadable_pods hs]
              cases hl : Calling.listed reply <;>
                simp [judge, hd, firstPod, hl, Except.map, bind, Except.bind, pure, Except.pure]

/-- A look that decides nothing. -/
theorem underway_of_verdict_none (asked : t.Asked p) (h : t.verdict p = none) :
    (t.statusAfter p before).Underway ∧ ¬ t.EndsUnread ns (sent ++ t.exchanges ns p) := by
  obtain ⟨object, readiness, judged, waits⟩ := verdict_eq_none.1 h
  obtain ⟨document, found, hr, -⟩ := judge_ok judged
  refine ⟨?_, fun unread => ?_⟩
  · obtain rfl | rfl := waits <;> simp [statusAfter, hr, hr ▸ judged, ResourceStatus.Underway]
  · obtain ⟨_, cause, -, broken⟩ := (endsUnread_exchanges asked).1 unread
    rw [judged] at broken
    cases broken

theorem finished_of_verdict {object : Json} (asked : t.Asked p)
    (h : t.verdict p = some (.ok object)) :
    t.statusAfter p before = .finished ∧ t.ShownReady ns (sent ++ t.exchanges ns p) object := by
  have judged := verdict_eq_ok.1 h
  obtain ⟨document, found, hr, hd, hf, ready⟩ := judge_ok judged
  refine ⟨by simp [statusAfter, hr, hr ▸ judged], sent, document, p.pods, found, ?_, hd,
    isSome_pods asked judged, hf, ready⟩
  rw [← hr]

theorem leaves_of_verdict {e : LifecycleError} (asked : t.Asked p) (underway : before.Underway)
    (h : t.verdict p = some (.error e)) :
    e.Leaves (t.EndsUnread ns (sent ++ t.exchanges ns p)) (t.statusAfter p before) := by
  have unread : t.EndsUnread ns (sent ++ t.exchanges ns p) ↔ _ := endsUnread_exchanges asked
  cases judged : t.judge p.object p.pods with
  | error cause =>
      obtain rfl : e = .cluster cause := by simpa [verdict, judged, eq_comm] using h
      cases hr : p.object with
      | error e =>
          rw [statusAfter, hr]
          refine LifecycleError.leaves_error rfl fun broken => ?_
          obtain ⟨document, -, found, -⟩ := unread.1 broken
          rw [hr] at found
          cases found
      | ok document =>
          have same : t.statusAfter p before = before := by simp [statusAfter, hr, hr ▸ judged]
          rw [same]
          exact LifecycleError.leaves_underway underway fun _ => unread.2 ⟨document, cause, hr, judged⟩
  | ok found =>
      obtain ⟨object, readiness⟩ := found
      obtain ⟨reason, rfl⟩ := failed_of_verdict h object readiness judged
      obtain ⟨document, -, hr, -⟩ := judge_ok judged
      obtain rfl : LifecycleError.failed t.kind t.name reason = e := by
        simpa [verdict_of_failed judged] using h
      have failed : t.statusAfter p before = .error := by simp [statusAfter, hr, hr ▸ judged]
      rw [failed]
      refine LifecycleError.leaves_error rfl fun broken => ?_
      obtain ⟨-, cause, -, broken⟩ := unread.1 broken
      rw [judged] at broken
      cases broken

end Template

namespace Resource

open Template

variable {ns : String} {t : Template} {w : Watch} {r r' : Resource}
  {log : List (Event clusterInterface)}

/-! ### Waits -/

theorem ran_waitReady_status {result : Except LifecycleError Json} (underway : r.status.Underway)
    (h : RanWith (waitReady ns w) r log result r') :
    (∀ object, result = .ok object → r'.status = .finished ∧ r'.observed = some object ∧
      r.template.ShownReady ns (traffic log) object) ∧
    ∀ e, result = .error e → e.Leaves (r.template.EndsUnread ns (traffic log)) r'.status := by
  let t := r.template
  let Q (object : Json) (s : Resource × List Exchange) : Prop := s.1.status = .finished ∧
    s.1.observed = some object ∧ t.ShownReady ns s.2 object
  let E (e : LifecycleError) (r : Resource) (sent : List Exchange) : Prop :=
    e.Leaves (t.EndsUnread ns sent) r.status
  -- While nothing is decided the last answer could be read.
  let D (_ : Nat) (s : Resource × List Exchange) : Prop :=
    s.1.template = t ∧ s.1.status.Underway ∧ ¬ t.EndsUnread ns s.2
  have waits : MeetsWith tracing (waitReady ns w) r [] (fun object r sent => Q object (r, sent)) E := by
    rw [waitReady, meetsWith_get_bind]
    refine Watch.meets_guarded (C := .stateful tracing E) (W := D) (D := D) (Q := Q) ?_ ?_ ?_
      (s := (r, [])) ⟨rfl, underway, not_endsUnread_nil⟩
    · rintro k ⟨r, sent⟩ ⟨ht, underway, -⟩
      refine Calculus.meets_stateful.2
        ((meetsWith_look_status (looking_noted notes_tracing ns t sent) ht rfl).mono ?_ ?_)
      · rintro found r' sent' ⟨ht', observed, p, asked, rfl, verdict, status⟩
        cases found with
        | some object =>
            obtain ⟨finished, shown⟩ := finished_of_verdict asked verdict
            exact ⟨status.trans finished, observed object rfl, shown⟩
        | none =>
            obtain ⟨underway', read⟩ := underway_of_verdict_none asked verdict
            exact ⟨ht', status ▸ underway', read⟩
      · rintro e r' sent' ⟨-, p, asked, rfl, verdict, status⟩
        change e.Leaves _ r'.status
        rw [status]
        exact leaves_of_verdict asked underway verdict
    · rintro k span ⟨r, sent⟩ ⟨ht, underway, read⟩
      refine Calculus.meets_stateful.2 (meetsWith_liftM.2 ⟨trivial, fun early sent' moved => ?_⟩)
      obtain rfl : sent' = sent := moved.trans (List.append_nil _)
      cases early with
      | true => exact LifecycleError.leaves_underway underway fun other => by cases other
      | false => exact ⟨ht, underway, read⟩
    · rintro k ⟨r, sent⟩ ⟨-, -, read⟩ -
      exact LifecycleError.leaves_error rfl read
  have ended := traced waits h
  refine ⟨fun object heq => ?_, fun e heq => ?_⟩
  · rw [heq] at ended
    exact ended
  · rw [heq] at ended
    exact ended

/-! ### Posts -/

theorem not_endsUnread_posting (sent : List Exchange) (reply : Reply) :
    ¬ t.EndsUnread ns (sent ++ [posting ns t reply]) := by
  rw [endsUnread_concat]
  rintro (⟨path, -⟩ | ⟨_, _, -, path, -⟩) <;> cases path

/-- What is sent after the cluster has the object decides whether the last answer could be read. -/
theorem Submission.of_ok {posted looks : List Exchange} {submitted : Except LifecycleError Unit}
    (h : Submission ns t posted submitted) (accepted : submitted = .ok ())
    (reads : ∀ x ∈ looks, x.request.Reads) :
    ¬ t.Blocked ns (posted ++ looks) ∧
      (t.EndsUnread ns (posted ++ looks) ↔ t.EndsUnread ns looks) := by
  have single : ∀ x ∈ looks, x.isPost = false := fun x hx => isPost_of_reads (reads x hx)
  have last (front : List Exchange) (reply : Reply) (hp : posted = front ++ [posting ns t reply]) :
      t.EndsUnread ns (posted ++ looks) ↔ t.EndsUnread ns looks := by
    by_cases none : looks = []
    · rw [none, List.append_nil, hp]
      exact iff_of_false (not_endsUnread_posting front reply) not_endsUnread_nil
    · exact endsUnread_append none
  cases h with
  | accepted document =>
      refine ⟨?_, last [] _ rfl⟩
      rintro ⟨-, e, -, heq⟩
      rw [List.singleton_append, posts_once single] at heq
      cases heq
  | refused | blocked => cases accepted
  | taken conflict shared =>
      refine ⟨?_, last [] _ rfl⟩
      rintro ⟨unshared, -⟩
      rw [shared] at unshared
      cases unshared
  | @replaced cause removal gone conflict unshared removed vanished reply =>
      refine ⟨?_, last (posting ns t (.error cause) :: (removal ++ gone)) reply (by simp)⟩
      rintro ⟨-, e, -, heq⟩
      have posts := posts_twice removed vanished single (.error cause) reply
      rw [List.cons_append, List.append_assoc, List.singleton_append, posts] at heq
      cases heq

theorem ran_submit_status {e : LifecycleError} (underway : r.status.Underway)
    (h : RanWith (submit ns w) r log (.error e) r') :
    e.Leaves (r.template.Blocked ns (traffic log) ∨ r.template.EndsUnread ns (traffic log))
      r'.status := by
  obtain ⟨log₁, reply, log₂, rfl, post, answered⟩ := ranWith_liftM_bind.1 (ranWith_get_bind.1 h)
  rw [traffic_append, ran_send post]
  cases reply with
  | ok document => cases (ranWith_pure.1 answered).2.1
  | error cause =>
      dsimp only at answered
      cases hc : cause.isConflict with
      | false =>
          simp only [hc, Bool.not_false, if_true] at answered
          obtain ⟨rfl, heq, rfl⟩ := ranWith_fail.1 answered
          cases heq
          refine LifecycleError.leaves_error rfl ?_
          rintro (⟨-, e, conflict, heq⟩ | unread)
          · cases heq
            rw [hc] at conflict
            cases conflict
          · exact not_endsUnread_posting [] _ unread
      | true =>
          simp only [hc, Bool.not_true, Bool.false_eq_true, if_false] at answered
          cases hs : r.template.shared with
          | true =>
              simp only [hs, if_true] at answered
              cases (ranWith_pure.1 answered).2.1
          | false =>
              simp only [hs, Bool.false_eq_true, if_false] at answered
              obtain ⟨_, heq, -, clears, rfl⟩ |
                ⟨removal, gone, again, removed, vanished, hlog, heq, failed⟩ := ran_replace answered
              · have single : ∀ x ∈ traffic log₂, x.isPost = false := fun x hx =>
                  isPost_of_clears (clears x hx)
                exact LifecycleError.leaves_underway underway fun _ =>
                  .inl ⟨hs, cause, hc, posts_once single _⟩
              · cases again with
                | ok document => cases heq
                | error second =>
                    have other : e.isCancelled = false := by
                      cases heq
                      split <;> rfl
                    rw [failed second rfl, hlog]
                    refine LifecycleError.leaves_error other ?_
                    rintro (⟨-, _, -, heq⟩ | unread)
                    · have posts := posts_twice removed vanished (List.forall_mem_nil _) (.error cause)
                        (.error second)
                      cases posts.symm.trans heq
                    · rw [← List.append_assoc] at unread
                      exact not_endsUnread_posting _ _ unread

/-! ### Creations -/

/-- When a resource is created anew and waited for, it ends as finished with the object that the last
look showed to be ready; or neither finished nor failed, if the work was cancelled; or, of other
failures, as failed, except when a 409 was not followed by another post or the last answer told of the
object but could not be read. -/
theorem create_status {result : Except LifecycleError Unit}
    (h : RanWith (create ns true w) (.ofTemplate t) log result r') :
    (result = .ok () → r'.status = .finished ∧ ∃ object, r'.observed = some object ∧
      t.ShownReady ns (traffic log) object) ∧
    ∀ e, result = .error e →
      e.Leaves (t.Blocked ns (traffic log) ∨ t.EndsUnread ns (traffic log)) r'.status := by
  have fresh : (ofTemplate t).status.Underway := ⟨nofun, nofun⟩
  obtain ⟨e, submission, rfl⟩ | ⟨log₁, _, r₁, log₂, rfl, submission, settles⟩ := ranWith_bind.1 h
  · refine ⟨nofun, ?_⟩
    rintro _ ⟨⟩
    exact ran_submit_status fresh submission
  have ht : r₁.template = t := (keeps_submit _ rfl _ _ _ submission).1
  have submitted := ran_submit submission
  have settles := ranWith_modify_bind.1 settles
  rw [if_pos rfl] at settles
  have underway : ResourceStatus.created.Underway := ⟨nofun, nofun⟩
  obtain ⟨e, wait, rfl⟩ | ⟨log₃, object, r₂, log₄, rfl, wait, done⟩ := ranWith_bind.1 settles
  · refine ⟨nofun, ?_⟩
    rintro _ ⟨⟩
    have reads := (ran_waitReady wait).forall_mem fun _ => Template.reads_exchanges
    obtain ⟨unblocked, last⟩ := submitted.of_ok rfl reads
    have leaves : e.Leaves (t.EndsUnread ns (traffic log₂)) r'.status := by
      rw [← ht]
      exact (ran_waitReady_status underway wait).2 e rfl
    rw [traffic_append]
    exact leaves.congr (last.symm.trans (or_iff_right unblocked).symm)
  · obtain ⟨rfl, rfl, rfl⟩ := ranWith_pure.1 done
    obtain ⟨finished, observed, before, document, pods, found, hlog, shown⟩ :=
      (ran_waitReady_status underway wait).1 object rfl
    rw [show Resource.template _ = t from ht] at hlog shown
    refine ⟨fun _ => ⟨finished, object, observed, traffic log₁ ++ before, document, pods, found, ?_,
      shown⟩, nofun⟩
    rw [List.append_nil, traffic_append, hlog, List.append_assoc]

/-- A claim is looked at twice before it is bound. -/
def binding : Nat → (op : ClusterOp) → op.Answer
  | _, .pause _ => false
  | 0, .send _ | 2, .send _ => .ok .empty
  | _, .send _ => .ok (.json (.mk [("status", .mk [("phase", .string "Bound")])]))

/-- A claim is found, but the answer is no JSON. -/
def garbled : Nat → (op : ClusterOp) → op.Answer
  | _, .pause _ => false
  | 0, .send _ => .ok .empty
  | _, .send _ => .ok (.text "x")

/-- Creates a claim and waits for it. -/
def claimRun (answer : Nat → (op : ClusterOp) → op.Answer) :
    List (Event clusterInterface) × Except LifecycleError Unit × Resource :=
  ((create "ns" true ⟨10, 25⟩).run.run (.ofTemplate (VolumeTemplate.named "a" "1Gi").template)).play
    answer 0

theorem ran_claimRun (answer : Nat → (op : ClusterOp) → op.Answer) :
    RanWith (create "ns" true ⟨10, 25⟩) (.ofTemplate (VolumeTemplate.named "a" "1Gi").template)
      (claimRun answer).1 (claimRun answer).2.1 (claimRun answer).2.2 :=
  Script.ran_play (I := clusterInterface) answer 0 _

theorem failed_garbled :
    (claimRun garbled).2.1 = .error (.cluster (.decode "the text is not JSON")) := by
  decide +kernel

theorem create_status_sample :
    (RanWith (create "ns" true ⟨10, 25⟩) (.ofTemplate (VolumeTemplate.named "a" "1Gi").template)
        (claimRun binding).1 (.ok ()) (claimRun binding).2.2 ∧
      (claimRun binding).2.2.status = .finished ∧
      ∃ object, (claimRun binding).2.2.observed = some object ∧
        (VolumeTemplate.named "a" "1Gi").template.ShownReady "ns" (traffic (claimRun binding).1) object) ∧
    RanWith (create "ns" true ⟨10, 25⟩) (.ofTemplate (VolumeTemplate.named "a" "1Gi").template)
        (claimRun garbled).1 (.error (.cluster (.decode "the text is not JSON")))
        (claimRun garbled).2.2 ∧
      (claimRun garbled).2.2.status ≠ .finished := by
  have ready : (claimRun binding).2.1 = .ok () := by decide +kernel
  have bound := ran_claimRun binding
  have broken := ran_claimRun garbled
  rw [ready] at bound
  rw [failed_garbled] at broken
  exact ⟨⟨bound, (create_status bound).1 rfl⟩, broken, ((create_status broken).2 _ rfl).unfinished⟩

/-- A failure that is no cancellation need not leave the object failed. -/
theorem create_unmarked :
    ¬ ∀ (ns : String) (t : Template) (w : Watch) (log : List (Event clusterInterface))
      (e : LifecycleError) (r' : Resource),
      RanWith (create ns true w) (.ofTemplate t) log (.error e) r' → e.isCancelled = false →
        r'.status = .error := by
  intro h
  have created : (claimRun garbled).2.2.status = .created := by decide +kernel
  have marked := h _ _ _ _ _ _ (failed_garbled ▸ ran_claimRun garbled) rfl
  rw [created] at marked
  cases marked

end Resource
end ImageryJobs
