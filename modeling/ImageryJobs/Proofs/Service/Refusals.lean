import ImageryJobs.Proofs.Service.Execution

/-!
What a call tells whose change of a job's status is refused. The refusal and the look at the job are two
steps, with those of other calls between them, so the status that is told may be that of another moment:
an earlier one for a call that starts the job, a later one for the others.
-/

namespace ImageryJobs

namespace Shared

open Service (changeOf?)

variable {s : Shared} {jobId : String} {st : JobStatus} {h : List Entry}

/-- The status of the job stays as it is. -/
def Unmoved (jobId : String) (h : List Entry) : Prop :=
  ∀ x ∈ h, ∀ st, changeOf? jobId x.event ≠ some (st, true)

theorem status_after_refused {e : ServiceEvent} (hg : s.Gives e.op e.answer)
    (hc : changeOf? jobId e = some (st, false)) : (s.after e.op).status jobId = s.status jobId := by
  obtain ⟨error, rfl⟩ := Service.changeOf?_eq_some hc
  have hmade : false = (s.store.transition jobId st error).1 := Except.ok.inj hg
  obtain ⟨row, -, -, ht⟩ | ⟨-, ht⟩ := s.store.transition_cases jobId st error
  · rw [ht] at hmade
    cases hmade
  · rw [status, store_after_transition, ht, status]

/-- Nothing but an insertion stores a job. -/
theorem status_after_none {op : ServiceOp} (hop : ∀ job tasks, op ≠ .store (.insert job tasks))
    (hs : s.status jobId = none) : (s.after op).status jobId = none := by
  cases op with
  | send _ | pause _ _ | register _ | freshId => exact hs
  | store op =>
      cases op with
      | getJob _ | listTasks _ | cancelPending _ | health => exact hs
      | insert job tasks => exact absurd rfl (hop job tasks)
      | updateTask taskId update =>
          change ((s.store.updateTask taskId update).jobs.get? jobId).map _ = _
          rw [Store.updateTask_jobs]
          exact hs
      | transition id st error =>
          obtain ⟨row, hrow, -, ht⟩ | ⟨-, ht⟩ := s.store.transition_cases id st error
          · have hne : jobId ≠ id := by
              intro heq
              rw [← heq] at hrow
              rw [status, hrow] at hs
              cases hs
            rw [status, store_after_transition, ht, Dict.get?_insert, if_neg hne]
            exact hs
          · rw [status, store_after_transition, ht]
            exact hs

theorem status_run_none (hop : ∀ x ∈ h, ∀ job tasks, x.event.op ≠ .store (.insert job tasks))
    (hs : s.status jobId = none) : (s.run h).status jobId = none := by
  induction h generalizing s with
  | nil => exact hs
  | cons x h ih =>
      obtain ⟨hx, hop⟩ := List.forall_mem_cons.1 hop
      exact ih hop (status_after_none hx hs)

/-- A status that was left is not had again, since statuses only move forward. -/
theorem status_run_iff (hl : s.Legal h) (hs : s.status jobId = some st.name) :
    (s.run h).status jobId = some st.name ↔ Unmoved jobId h := by
  constructor
  · intro still x hx a ha
    have hlt : st.rank < a.rank :=
      Past.lt_rank_of_mem (n := st.rank) ⟨st, hs, Nat.le_refl _⟩ hl hx ha
    obtain ⟨before, after, rfl⟩ := List.append_of_mem hx
    rw [legal_append] at hl
    obtain ⟨now, hnow, hle⟩ := (past_of_made hl.2.1 ha).run hl.2.2
    rw [run_append, run_cons] at still
    obtain rfl := JobStatus.name_inj (Option.some.inj (hnow.symm.trans still))
    omega
  · intro unmoved
    obtain same | ⟨x, hx, a, ha, -⟩ := status_run hl hs
    · exact same
    · exact absurd ha (unmoved x hx a)

/-- So a status that the job has was the earlier one just if no change was made since. -/
theorem status_iff_of_run (hl : s.Legal h)
    (hop : ∀ x ∈ h, ∀ job tasks, x.event.op ≠ .store (.insert job tasks))
    (hs : (s.run h).status jobId = some st.name) :
    s.status jobId = some st.name ↔ Unmoved jobId h := by
  refine ⟨fun earlier => (status_run_iff hl earlier).1 hs, fun unmoved => ?_⟩
  cases hv : s.status jobId with
  | none =>
      rw [status_run_none hop hv] at hs
      cases hs
  | some v =>
      obtain same | ⟨x, hx, a, ha, -⟩ := status_run hl hv
      · exact same.symm.trans hs
      · exact absurd ha (unmoved x hx a)

end Shared

namespace Service

variable {s : Service} {jobId id : String} {status next : JobStatus}

/-! ### One call -/

/-- The job is read. -/
def reading (jobId : String) (job : Job) : ServiceEvent := ⟨.store (.getJob jobId), .ok (some job)⟩

/-- A change of the job's status is refused. -/
def refusal (jobId : String) (next : JobStatus) : ServiceEvent :=
  ⟨.store (.transition jobId next none), .ok false⟩

/-- A call was refused a change, and the job had some status when the call read it. -/
inductive Denied (jobId : String) (status next : JobStatus) (log : List ServiceEvent) : Prop where
  | readFirst (job : Job) (read : job.status = status)
      (asked : log = [reading jobId job, refusal jobId next])
  | refusedFirst (job : Job) (read : job.status = status) (first last : List ServiceEvent)
      (asked : log = first ++ refusal jobId next :: reading jobId job :: last)

section Log

variable {β : Type} {log : List ServiceEvent}

/-- A call that tells of a refusal was answered by the store. -/
theorem told_store_bind {op : StoreOp} {f : op.Answer → Serving β}
    (h : (store op >>= f).run.Ran log (.error (.invalidTransition id status next))) :
    ∃ value later, log = ⟨.store op, .ok value⟩ :: later ∧
      (f value).run.Ran later (.error (.invalidTransition id status next)) := by
  obtain ⟨-, going⟩ | ⟨e, -, heq⟩ | found := follows_store_bind h
  · exact absurd rfl (going _)
  · cases heq
  · exact found

theorem told_getJob_bind {f : Job → Serving β}
    (h : (getJob jobId >>= f).run.Ran log (.error (.invalidTransition id status next))) :
    ∃ job later, log = reading jobId job :: later ∧
      (f job).run.Ran later (.error (.invalidTransition id status next)) := by
  obtain ⟨-, going⟩ | ⟨e, -, heq⟩ | ⟨-, heq⟩ | found := follows_read h
  · cases going
  · cases heq
  · cases heq
  · exact found

theorem not_told_register {op : RegisterOp} :
    ¬ (register op).run.Ran log (.error (.invalidTransition id status next)) := by
  intro h
  cases h with
  | answered h => cases (Script.follows_done.1 h).2

theorem not_told_return {value : β} :
    ¬ (pure value : Serving β).run.Ran log (.error (.invalidTransition id status next)) :=
  fun h => by cases (Script.follows_done.1 h).2

theorem denied_start
    (h : (startProcessing jobId).run.Ran log (.error (.invalidTransition id status next))) :
    id = jobId ∧ next = .queued ∧ Denied jobId status next log := by
  obtain ⟨job, later, rfl, h₁⟩ := told_getJob_bind h
  obtain ⟨made, last, rfl, h₂⟩ := told_store_bind h₁
  cases made with
  | true => exact absurd h₂ not_told_register
  | false =>
      obtain ⟨rfl, heq⟩ := Script.follows_done.1 h₂
      cases heq
      exact ⟨rfl, rfl, .readFirst job rfl rfl⟩

theorem denied_cancel
    (h : (Service.cancel jobId).run.Ran log (.error (.invalidTransition id status next))) :
    id = jobId ∧ next = .canceled ∧ Denied jobId status next log := by
  obtain ⟨made, later, rfl, h₁⟩ := told_store_bind h
  cases made with
  | true =>
      obtain ⟨count, last, rfl, h₂⟩ := told_store_bind h₁
      exact absurd h₂ not_told_register
  | false =>
      obtain ⟨job, last, rfl, h₂⟩ := told_getJob_bind h₁
      obtain ⟨rfl, heq⟩ := Script.follows_done.1 h₂
      cases heq
      exact ⟨rfl, rfl, .refusedFirst job rfl [] [] rfl⟩

/-- Settling the end of a run tells of no refusal. -/
theorem not_told_settle {outcome : Except EngineError (List TaskOutcome)} :
    ¬ (settle jobId outcome).run.Ran log (.error (.invalidTransition id status next)) := by
  intro h
  cases outcome with
  | ok outcomes =>
      obtain ⟨made, later, rfl, h₁⟩ := told_store_bind h
      cases made with
      | true => exact not_told_return h₁
      | false =>
          obtain ⟨job, last, rfl, h₂⟩ := told_getJob_bind h₁
          exact not_told_return h₂
  | error error =>
      by_cases hc : error.isCancelled = true
      · rw [settle_of_cancelled hc] at h
        obtain ⟨made, later, rfl, h₁⟩ := told_store_bind h
        obtain ⟨count, last, rfl, h₂⟩ := told_store_bind h₁
        exact not_told_return h₂
      · rw [settle_of_failed hc] at h
        obtain ⟨made, later, rfl, h₁⟩ := told_store_bind h
        obtain ⟨count, last, rfl, h₂⟩ := told_store_bind h₁
        split at h₂
        · split at h₂
          · cases (Script.follows_done.1 h₂).2
          · exact not_told_return h₂
        · exact not_told_return h₂

/-- A run of a job is refused only before the engine is entered. -/
theorem denied_drive {token : Token}
    (h : (s.drive jobId token).run.Ran log (.error (.invalidTransition id status next))) :
    id = jobId ∧ next = .running ∧ ∃ job : Job, job.status = status ∧
      log = [refusal jobId .running, reading jobId job] := by
  obtain ⟨made, later, rfl, h₁⟩ := told_store_bind h
  cases made with
  | true =>
      obtain ⟨tasks, last, rfl, h₂⟩ := told_store_bind h₁
      obtain ⟨left, -, heq⟩ | ⟨events, outcome, settling, rfl, -, h₃⟩ := follows_lift_bind.1 h₂
      · cases left with
        | done outcome => exact absurd heq.symm (settle_ne_done outcome _)
        | ask op after => cases heq
      · exact absurd h₃ not_told_settle
  | false =>
      obtain ⟨job, last, rfl, h₂⟩ := told_getJob_bind h₁
      split at h₂
      · exact absurd h₂ not_told_return
      · obtain ⟨rfl, heq⟩ := Script.follows_done.1 h₂
        cases heq
        exact ⟨rfl, rfl, job, rfl, rfl⟩

/-- The change that a call asks for first. -/
def Call.first : Call → JobStatus
  | .start => .queued
  | .work => .running
  | .cancel => .canceled

theorem Call.denied {c : Call}
    (h : (c.script s jobId).Ran log (.error (.invalidTransition id status next))) :
    id = jobId ∧ next = c.first ∧ Denied jobId status next log := by
  cases c with
  | start => exact denied_start h
  | cancel => exact denied_cancel h
  | work =>
      obtain ⟨-, going⟩ | ⟨token, later, rfl, ⟨t, -, going⟩ | ⟨driven, result, rfl, ran, heq⟩⟩ :=
        follows_runJob h
      · exact absurd rfl (going _)
      · exact absurd rfl (going _)
      cases heq
      obtain ⟨rfl, rfl, job, read, rfl⟩ := denied_drive ran
      exact ⟨rfl, rfl, .refusedFirst job read [_] [_] rfl⟩

end Log

/-! ### All calls -/

variable {store : Store} {w : State} {i : Nat}

/-- A call that was refused a change of the job's status, and read the job: `upto` is the history up to the
refusal, and `between` what other calls did between the refusal and the reading. -/
inductive RefusedAt (jobId : String) (i : Nat) (next : JobStatus) (upto between : List Entry) :
    List Entry → Prop where
  | readFirst (job : Job) (before after : List Entry)
      (asked : upto = before ++ ⟨i, reading jobId job⟩ :: between) :
      RefusedAt jobId i next upto between (upto ++ ⟨i, refusal jobId next⟩ :: after)
  | refusedFirst (job : Job) (after : List Entry) :
      RefusedAt jobId i next upto between
        (upto ++ ⟨i, refusal jobId next⟩ :: (between ++ ⟨i, reading jobId job⟩ :: after))

/-- What is told of the status holds for the refusal just if the status stayed between the two steps. -/
theorem Coherent.refusedAt (h : Coherent s jobId store w)
    (denied : Denied jobId status next (logOf i w.history)) :
    ∃ upto between, RefusedAt jobId i next upto between w.history ∧
      (∀ p ∈ next.predecessors, ((Shared.initial store).run upto).status jobId ≠ some p.name) ∧
      (((Shared.initial store).run upto).status jobId = some status.name ↔
        Shared.Unmoved jobId between) := by
  have legal := h.legal
  cases denied with
  | readFirst job read asked =>
      subst read
      obtain ⟨before, later, heq, -, hlater⟩ := logOf_split (l := []) asked
      obtain ⟨between, after, rfl, -, -⟩ := logOf_split (l := []) hlater
      have whole : w.history = (before ++ ⟨i, reading jobId job⟩ :: between) ++
          ⟨i, refusal jobId next⟩ :: after := by simp [heq]
      rw [whole] at legal ⊢
      obtain ⟨earlier, given, -⟩ := Shared.legal_append.1 legal
      obtain ⟨-, seen, still⟩ := Shared.legal_append.1 earlier
      refine ⟨_, between, .readFirst job before after rfl,
        Shared.status_of_refused given (changeOf?_transition ..), ?_⟩
      rw [Shared.run_append, Shared.run_cons]
      exact Shared.status_run_iff still (Shared.status_of_read seen)
  | refusedFirst job read first last asked =>
      subst read
      obtain ⟨upto, later, heq, -, hlater⟩ := logOf_split asked
      obtain ⟨between, after, rfl, -, -⟩ := logOf_split (l := []) hlater
      have stored : ∀ x ∈ between, ∀ job tasks, x.event.op ≠ .store (.insert job tasks) :=
        fun x hx => h.not_insert (heq ▸ by simp [hx])
      rw [heq] at legal ⊢
      obtain ⟨-, given, later⟩ := Shared.legal_append.1 legal
      obtain ⟨still, seen, -⟩ := Shared.legal_append.1 later
      refine ⟨upto, between, .refusedFirst job after,
        Shared.status_of_refused given (changeOf?_transition ..), ?_⟩
      rw [← Shared.status_after_refused given (changeOf?_transition ..)]
      exact Shared.status_iff_of_run still stored (Shared.status_of_read seen)

/-- A refusal is told with the status that the job had when the call read it. It is the status for which
the change was refused just if no call changed the status between the two steps; then the change from the
status that is told is not allowed. -/
theorem invalidTransition_true_iff (h : Reachable s jobId store w) {c : Call}
    (hi : w.result? i c = some (.error (.invalidTransition id status next))) :
    id = jobId ∧ next = c.first ∧ ∃ upto between, RefusedAt jobId i next upto between w.history ∧
      (∀ p ∈ next.predecessors, ((Shared.initial store).run upto).status jobId ≠ some p.name) ∧
      (((Shared.initial store).run upto).status jobId = some status.name ↔
        Shared.Unmoved jobId between) ∧
      (Shared.Unmoved jobId between → status.canBecome next = false) := by
  have coherent := h.coherent
  obtain ⟨rfl, hnext, denied⟩ := Call.denied (coherent.follows i _ (State.result?_eq_some.1 hi))
  obtain ⟨upto, between, refusedAt, refused, hiff⟩ := coherent.refusedAt denied
  refine ⟨rfl, hnext, upto, between, refusedAt, refused, hiff, fun unmoved => ?_⟩
  rw [JobStatus.canBecome, List.contains_eq_mem, decide_eq_false_iff_not]
  exact fun hp => refused _ hp (hiff.2 unmoved)

/-- A job is started while another call starts it. -/
def racingStarts : List Move :=
  [.call .start, .ask 0, .call .start, .ask 1, .ask 1, .ask 0]

theorem invalidTransition_true_iff_sample :
    ∃ w upto between, Reachable sampleService "j" sampleStore w ∧
      w.result? 0 .start = some (.error (.invalidTransition "j" .created .queued)) ∧
      RefusedAt "j" 0 .queued upto between w.history ∧
      (((Shared.initial sampleStore).run upto).status "j" = some JobStatus.created.name ↔
        Shared.Unmoved "j" between) ∧
      ¬ Shared.Unmoved "j" between := by
  have reachable := reachable_playSample racingStarts
  have hi : (playSample racingStarts).result? 0 .start =
      some (.error (.invalidTransition "j" .created .queued)) := by decide +kernel
  obtain ⟨-, -, upto, between, refusedAt, -, hiff, allowed⟩ := invalidTransition_true_iff reachable hi
  exact ⟨_, upto, between, reachable, hi, refusedAt, hiff,
    fun unmoved => absurd (allowed unmoved) (by decide)⟩

/-- Each call may tell of a change that is allowed, when another call starts the job between its steps. -/
theorem invalidTransition_of_allowed (c : Call) :
    ∃ w i status next, Reachable sampleService "j" sampleStore w ∧
      w.result? i c = some (.error (.invalidTransition "j" status next)) ∧
      status.canBecome next = true := by
  cases c with
  | start =>
      exact ⟨_, 0, .created, .queued, reachable_playSample racingStarts, by decide +kernel, by decide⟩
  | work =>
      exact ⟨_, 0, .queued, .running, reachable_playSample [.call .work, .ask 0, .ask 0, .call .start,
        .ask 1, .ask 1, .ask 0, .ask 0], by decide +kernel, by decide⟩
  | cancel =>
      exact ⟨_, 0, .queued, .canceled, reachable_playSample [.call .cancel, .ask 0, .call .start, .ask 1,
        .ask 1, .ask 0], by decide +kernel, by decide⟩

end Service
end ImageryJobs
