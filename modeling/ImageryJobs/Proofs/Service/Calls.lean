import ImageryJobs.Proofs.Runs
import ImageryJobs.Service.Service

/-!
What the calls about one job ask, and in which order. A worker changes the status of its job at
most twice, first to running; a cancelling call trips a token only after it has changed the status.
-/

namespace ImageryJobs

open Script

instance : (op : StoreOp) → DecidableEq op.Answer
  | .insert _ _ | .updateTask _ _ | .health => inferInstanceAs (DecidableEq Unit)
  | .getJob _ => inferInstanceAs (DecidableEq (Option Job))
  | .listTasks _ => inferInstanceAs (DecidableEq (List Task))
  | .transition _ _ _ => inferInstanceAs (DecidableEq Bool)
  | .cancelPending _ => inferInstanceAs (DecidableEq Nat)

instance : (op : ServiceOp) → DecidableEq op.Answer
  | .send _ => inferInstanceAs (DecidableEq Reply)
  | .pause _ _ => inferInstanceAs (DecidableEq Bool)
  | .store op => inferInstanceAs (DecidableEq (Except StoreError op.Answer))
  | .register (.token _) => inferInstanceAs (DecidableEq Token)
  | .register (.assign _) | .register (.remove _) | .register (.trip _) =>
      inferInstanceAs (DecidableEq Unit)
  | .freshId => inferInstanceAs (DecidableEq String)

/-- A question of a call with its answer. -/
abbrev ServiceEvent := Event serviceInterface

instance : DecidableEq ServiceEvent :=
  inferInstanceAs (DecidableEq (Event ⟨ServiceOp, ServiceOp.Answer⟩))

namespace Service

variable {s : Service} {jobId : String} {α β : Type} {log : List ServiceEvent}

section Peeling

variable {rest : ServiceScript (Except ServiceError β)}

theorem follows_store_bind {op : StoreOp} {f : op.Answer → Serving β}
    (h : (store op >>= f).run.Follows log rest) :
    (log = [] ∧ ∀ result, rest ≠ .done result) ∨
      (∃ e, log = [⟨.store op, .error e⟩] ∧ rest = .done (.error (.store e))) ∨
        ∃ value later, log = ⟨.store op, .ok value⟩ :: later ∧
          (f value).run.Follows later rest := by
  cases h with
  | stop => exact .inl ⟨rfl, fun _ heq => by cases heq⟩
  | @answered _ _ answer later _ h =>
      cases answer with
      | error e =>
          obtain ⟨rfl, rfl⟩ := follows_done.1 h
          exact .inr (.inl ⟨e, rfl, rfl⟩)
      | ok value => exact .inr (.inr ⟨value, later, rfl, h⟩)

theorem follows_register_bind {op : RegisterOp} {f : op.Answer → Serving β}
    (h : (register op >>= f).run.Follows log rest) :
    (log = [] ∧ ∀ result, rest ≠ .done result) ∨
      ∃ answer later, log = ⟨.register op, answer⟩ :: later ∧
        (f answer).run.Follows later rest := by
  cases h with
  | stop => exact .inl ⟨rfl, fun _ heq => by cases heq⟩
  | answered h => exact .inr ⟨_, _, rfl, h⟩

theorem run_lift_bind (script : ServiceScript α) (f : α → Serving β) :
    (ExceptT.lift script >>= f).run = script >>= fun value => (f value).run := by
  change (script >>= fun value => pure (Except.ok value)) >>= _ = _
  rw [bind_assoc]
  rfl

theorem follows_lift_bind {script : ServiceScript α} {f : α → Serving β} :
    (ExceptT.lift script >>= f).run.Follows log rest ↔
      (∃ t, script.Follows log t ∧ rest = t >>= fun value => (f value).run) ∨
        ∃ log₁ value log₂, log = log₁ ++ log₂ ∧ script.Ran log₁ value ∧
          (f value).run.Follows log₂ rest := by
  rw [run_lift_bind, follows_bind]

end Peeling

/-! ### Changes of the status -/

/-- The status to which an event would change the job, and whether it did. -/
def changeOf? (jobId : String) : ServiceEvent → Option (JobStatus × Bool)
  | ⟨.store (.transition id status _), .ok made⟩ => if id = jobId then some (status, made) else none
  | _ => none

theorem changeOf?_eq_some {e : ServiceEvent} {st : JobStatus} {made : Bool}
    (hc : changeOf? jobId e = some (st, made)) :
    ∃ error, e = ⟨.store (.transition jobId st error), .ok made⟩ := by
  unfold changeOf? at hc
  split at hc
  · split at hc
    · rename_i hid
      subst hid
      cases hc
      exact ⟨_, rfl⟩
    · cases hc
  · cases hc

theorem changeOf?_transition (status : JobStatus) (error : Option String) (made : Bool) :
    changeOf? jobId ⟨.store (.transition jobId status error), .ok made⟩ = some (status, made) :=
  if_pos rfl

/-- All changes of the job's status that were asked for and answered. -/
def changes (jobId : String) (log : List ServiceEvent) : List (JobStatus × Bool) :=
  log.filterMap (changeOf? jobId)

@[simp] theorem changes_nil : changes jobId [] = [] := rfl

@[simp] theorem changes_append (log log' : List ServiceEvent) :
    changes jobId (log ++ log') = changes jobId log ++ changes jobId log' := List.filterMap_append

theorem changes_cons {e : ServiceEvent} {change : JobStatus × Bool}
    (h : changeOf? jobId e = some change) :
    changes jobId (e :: log) = change :: changes jobId log :=
  List.filterMap_cons_some h

@[simp] theorem changes_transition {status : JobStatus} {error : Option String} {made : Bool} :
    changes jobId (⟨.store (.transition jobId status error), .ok made⟩ :: log) =
      (status, made) :: changes jobId log :=
  changes_cons (changeOf?_transition ..)

@[simp] theorem changes_register {op : RegisterOp} {answer : op.Answer} :
    changes jobId (⟨.register op, answer⟩ :: log) = changes jobId log := rfl

/-- What a run of the engine asks on behalf of a worker. -/
def Works : ServiceOp → Prop
  | .send _ | .pause _ _ | .store (.updateTask _ _) => True
  | _ => False

theorem changes_of_works (h : ∀ e ∈ log, Works e.op) : changes jobId log = [] := by
  refine List.filterMap_eq_nil_iff.2 fun e he => ?_
  have works := h e he
  obtain ⟨op, answer⟩ := e
  cases op with
  | store op => cases op <;> first | rfl | cases works
  | send _ | pause _ _ | register _ | freshId => rfl

theorem asks_ofEngineOp (token : Token) (op : EngineOp) :
    (ServiceScript.ofEngineOp token op).Asks Works := by
  cases op with
  | cluster op => cases op <;> exact ⟨trivial, fun _ => trivial⟩
  | report event => exact ⟨trivial, fun _ => trivial⟩

theorem asks_ofEngine (token : Token) (script : EngineScript α) :
    (ServiceScript.ofEngine token script).Asks Works := by
  induction script with
  | done value => trivial
  | ask op next ih => exact (asks_ofEngineOp token op).bind ih

/-! ### Workers -/

theorem isDone_of_going {rest : ServiceScript α} (going : ∀ result, rest ≠ .done result) :
    rest.isDone = false := by
  cases rest with
  | done value => exact absurd rfl (going value)
  | ask op next => rfl

/-- The job is read, and what comes after needs it. -/
theorem follows_read {f : Job → Serving β} {rest : ServiceScript (Except ServiceError β)}
    (h : (getJob jobId >>= f).run.Follows log rest) :
    (log = [] ∧ rest.isDone = false) ∨
      (∃ e, log = [⟨.store (.getJob jobId), .error e⟩] ∧ rest = .done (.error (.store e))) ∨
      (log = [⟨.store (.getJob jobId), .ok none⟩] ∧
        rest = .done (.error (.jobNotFound jobId))) ∨
      ∃ job later, log = ⟨.store (.getJob jobId), .ok (some job)⟩ :: later ∧
        (f job).run.Follows later rest := by
  rw [getJob, bind_assoc] at h
  obtain ⟨rfl, going⟩ | ⟨e, rfl, rfl⟩ | ⟨found, later, rfl, h₁⟩ := follows_store_bind h
  · exact .inl ⟨rfl, isDone_of_going going⟩
  · exact .inr (.inl ⟨e, rfl, rfl⟩)
  · cases found with
    | none =>
        obtain ⟨rfl, rfl⟩ := follows_done.1 h₁
        exact .inr (.inr (.inl ⟨rfl, rfl⟩))
    | some job => exact .inr (.inr (.inr ⟨job, later, rfl, h₁⟩))

theorem follows_getJob_bind {f : Job → Serving β} {rest : ServiceScript (Except ServiceError β)}
    (h : (getJob jobId >>= f).run.Follows log rest) :
    (log = [] ∧ ∀ result, rest ≠ .done result) ∨
      (∃ answer e, log = [⟨.store (.getJob jobId), answer⟩] ∧ rest = .done (.error e) ∧
        ∀ cause, e ≠ .clusterUnavailable cause) ∨
      ∃ job later, log = ⟨.store (.getJob jobId), .ok (some job)⟩ :: later ∧
        (f job).run.Follows later rest := by
  obtain ⟨rfl, going⟩ | ⟨e, rfl, rfl⟩ | ⟨rfl, rfl⟩ | found := follows_read h
  · refine .inl ⟨rfl, fun result heq => ?_⟩
    rw [heq] at going
    cases going
  · exact .inr (.inl ⟨_, _, rfl, rfl, by simp⟩)
  · exact .inr (.inl ⟨_, _, rfl, rfl, by simp⟩)
  · exact .inr (.inr found)

theorem settle_of_cancelled {error : EngineError} (h : error.isCancelled = true) :
    settle jobId (.error error) = do
      let _ ← store (.transition jobId .canceled none)
      let _ ← store (.cancelPending jobId)
      return .canceled :=
  if_pos h

theorem settle_of_failed {error : EngineError} (h : ¬ error.isCancelled = true) :
    settle jobId (.error error) = do
      let _ ← store (.transition jobId .error (some error.message))
      let _ ← store (.cancelPending jobId)
      match error.clusterError? with
      | some cause =>
          if cause.isUnavailable then throw (.clusterUnavailable cause) else return .error
      | none => return .error :=
  if_neg h

/-- What is left of a worker neither is a status nor blames the cluster. -/
def Untold (rest : ServiceScript (Except ServiceError JobStatus)) : Prop :=
  (∀ st, rest ≠ .done (.ok st)) ∧ ∀ cause, rest ≠ .done (.error (.clusterUnavailable cause))

theorem untold_of_going {rest : ServiceScript (Except ServiceError JobStatus)}
    (going : ∀ result, rest ≠ .done result) : Untold rest :=
  ⟨fun _ => going _, fun _ => going _⟩

theorem untold_store (e : StoreError) : Untold (.done (.error (.store e))) := ⟨by simp, by simp⟩

/-- Settling asks for one change of the status. The result is the status of that change, or the one
read after the change was refused. -/
theorem follows_settle {result : Except EngineError (List TaskOutcome)}
    {rest : ServiceScript (Except ServiceError JobStatus)}
    (h : (settle jobId result).run.Follows log rest) :
    (changes jobId log = [] ∧ Untold rest) ∨
      ∃ status made, changes jobId log = [(status, made)] ∧ status.isFinal = true ∧
        (∀ st, rest = .done (.ok st) → (st = status ∧ (status = .finished → made = true)) ∨
          (status = .finished ∧ made = false ∧ ∃ job error, st = job.status ∧
            log = [⟨.store (.transition jobId .finished error), .ok false⟩,
              ⟨.store (.getJob jobId), .ok (some job)⟩])) ∧
        ∀ cause, rest = .done (.error (.clusterUnavailable cause)) → status = .error := by
  cases result with
  | ok outcomes =>
      obtain ⟨rfl, going⟩ | ⟨e, rfl, rfl⟩ | ⟨made, later, rfl, h₁⟩ := follows_store_bind h
      · exact .inl ⟨rfl, untold_of_going going⟩
      · exact .inl ⟨rfl, untold_store e⟩
      refine .inr ⟨.finished, made, ?_⟩
      rw [changes_transition]
      cases made with
      | true =>
          obtain ⟨rfl, rfl⟩ := follows_done.1 h₁
          exact ⟨rfl, rfl, by simp, by simp⟩
      | false =>
          obtain ⟨rfl, going⟩ | ⟨answer, e, rfl, rfl, he⟩ | ⟨job, last, rfl, h₂⟩ :=
            follows_getJob_bind h₁
          · exact ⟨rfl, rfl, fun _ heq => absurd heq (going _), fun _ heq => absurd heq (going _)⟩
          · exact ⟨rfl, rfl, by simp, by simpa using he⟩
          · obtain ⟨rfl, rfl⟩ := follows_done.1 h₂
            refine ⟨rfl, rfl, ?_, by simp⟩
            intro st heq
            cases heq
            exact .inr ⟨rfl, rfl, job, none, rfl, rfl⟩
  | error error =>
      by_cases hc : error.isCancelled = true
      · rw [settle_of_cancelled hc] at h
        obtain ⟨rfl, going⟩ | ⟨e, rfl, rfl⟩ | ⟨made, later, rfl, h₁⟩ := follows_store_bind h
        · exact .inl ⟨rfl, untold_of_going going⟩
        · exact .inl ⟨rfl, untold_store e⟩
        refine .inr ⟨.canceled, made, ?_⟩
        rw [changes_transition]
        obtain ⟨rfl, going⟩ | ⟨e, rfl, rfl⟩ | ⟨count, last, rfl, h₂⟩ := follows_store_bind h₁
        · exact ⟨rfl, rfl, fun _ heq => absurd heq (going _), fun _ heq => absurd heq (going _)⟩
        · exact ⟨rfl, rfl, by simp, by simp⟩
        · obtain ⟨rfl, rfl⟩ := follows_done.1 h₂
          exact ⟨rfl, rfl, by simp, by simp⟩
      · rw [settle_of_failed hc] at h
        obtain ⟨rfl, going⟩ | ⟨e, rfl, rfl⟩ | ⟨made, later, rfl, h₁⟩ := follows_store_bind h
        · exact .inl ⟨rfl, untold_of_going going⟩
        · exact .inl ⟨rfl, untold_store e⟩
        refine .inr ⟨.error, made, ?_⟩
        rw [changes_transition]
        obtain ⟨rfl, going⟩ | ⟨e, rfl, rfl⟩ | ⟨count, last, rfl, h₂⟩ := follows_store_bind h₁
        · exact ⟨rfl, rfl, fun _ heq => absurd heq (going _), fun _ _ => rfl⟩
        · exact ⟨rfl, rfl, by simp, fun _ _ => rfl⟩
        have ended : last = [] ∧ ∀ st, rest = .done (.ok st) → st = .error := by
          split at h₂
          · split at h₂
            · obtain ⟨rfl, rfl⟩ := follows_done.1 h₂
              exact ⟨rfl, by simp⟩
            · obtain ⟨rfl, rfl⟩ := follows_done.1 h₂
              exact ⟨rfl, by simp⟩
          · obtain ⟨rfl, rfl⟩ := follows_done.1 h₂
            exact ⟨rfl, by simp⟩
        obtain ⟨rfl, hst⟩ := ended
        exact ⟨rfl, rfl, fun st heq => .inl ⟨hst st heq, by simp⟩, fun _ _ => rfl⟩

theorem settle_ne_done (outcome : Except EngineError (List TaskOutcome))
    (result : Except ServiceError JobStatus) : (settle jobId outcome).run ≠ .done result := by
  cases outcome with
  | ok outcomes => exact fun heq => by cases heq
  | error error =>
      by_cases hc : error.isCancelled = true
      · rw [settle_of_cancelled hc]
        exact fun heq => by cases heq
      · rw [settle_of_failed hc]
        exact fun heq => by cases heq

/-- How far driving a job has come, by the changes of the status that it asked for. The result is
the status of the last change, or the one read after a refusal. -/
inductive Driven (jobId : String) (log : List ServiceEvent)
    (rest : ServiceScript (Except ServiceError JobStatus)) : Prop where
  | silent (asked : changes jobId log = []) (untold : Untold rest)
  | refused (asked : changes jobId log = [(.running, false)])
      (told : ∀ st, rest = .done (.ok st) → st = .canceled ∧ ∃ job first, job.status = .canceled ∧
        log = first ++ [⟨.store (.getJob jobId), .ok (some job)⟩])
      (unblamed : ∀ cause, rest ≠ .done (.error (.clusterUnavailable cause)))
  | running (asked : changes jobId log = [(.running, true)]) (untold : Untold rest)
  | settled (status : JobStatus) (made : Bool)
      (asked : changes jobId log = [(.running, true), (status, made)])
      (final : status.isFinal = true)
      (told : ∀ st, rest = .done (.ok st) → (st = status ∧ (status = .finished → made = true)) ∨
        (status = .finished ∧ made = false ∧ ∃ job error first, st = job.status ∧
          log = first ++ [⟨.store (.transition jobId .finished error), .ok false⟩,
            ⟨.store (.getJob jobId), .ok (some job)⟩]))
      (blamed : ∀ cause, rest = .done (.error (.clusterUnavailable cause)) → status = .error)

theorem follows_drive {token : Token} {rest : ServiceScript (Except ServiceError JobStatus)}
    (h : (s.drive jobId token).run.Follows log rest) : Driven jobId log rest := by
  obtain ⟨rfl, going⟩ | ⟨e, rfl, rfl⟩ | ⟨made, later, rfl, h₁⟩ := follows_store_bind h
  · exact .silent rfl (untold_of_going going)
  · exact .silent rfl (untold_store e)
  cases made with
  | false =>
      obtain ⟨rfl, going⟩ | ⟨answer, e, rfl, rfl, he⟩ | ⟨job, last, rfl, h₂⟩ :=
        follows_getJob_bind h₁
      · exact .refused changes_transition (fun _ heq => absurd heq (going _)) fun _ => going _
      · exact .refused changes_transition (by simp) (by simpa using he)
      · split at h₂
        · rename_i hst
          obtain ⟨rfl, rfl⟩ := follows_done.1 h₂
          refine .refused changes_transition (fun st heq => ?_) (by simp)
          cases heq
          exact ⟨rfl, job, [_], hst, rfl⟩
        · obtain ⟨rfl, rfl⟩ := follows_done.1 h₂
          exact .refused changes_transition (by simp) (by simp)
  | true =>
      obtain ⟨rfl, going⟩ | ⟨e, rfl, rfl⟩ | ⟨tasks, last, rfl, h₂⟩ := follows_store_bind h₁
      · exact .running changes_transition (untold_of_going going)
      · exact .running changes_transition (untold_store e)
      obtain ⟨t, ht, rfl⟩ | ⟨ran, result, settling, rfl, hran, h₃⟩ := follows_lift_bind.1 h₂
      · have quiet : changes jobId last = [] := changes_of_works ((asks_ofEngine _ _).follows ht)
        refine .running ?_ (untold_of_going fun result heq => ?_)
        · rw [changes_transition]
          exact congrArg (_ :: ·) quiet
        · cases t with
          | done outcome => exact settle_ne_done outcome result heq
          | ask op next => cases heq
      · have quiet : changes jobId ran = [] := changes_of_works ((asks_ofEngine _ _).follows hran)
        have asked : changes jobId (⟨.store (.transition jobId .running none), .ok true⟩ ::
            ⟨.store (.listTasks jobId), .ok tasks⟩ :: (ran ++ settling)) =
            (.running, true) :: changes jobId settling := by
          rw [changes_transition]
          refine congrArg (_ :: ·) ?_
          change changes jobId (ran ++ settling) = _
          rw [changes_append, quiet, List.nil_append]
        obtain ⟨hs, untold⟩ | ⟨status, made, hs, final, told, blamed⟩ := follows_settle h₃
        · exact .running (by rw [asked, hs]) untold
        · refine .settled status made (by rw [asked, hs]) final (fun st heq => ?_) blamed
          obtain h | ⟨hfin, hmade, job, error, hst, rfl⟩ := told st heq
          · exact .inl h
          · exact .inr ⟨hfin, hmade, job, error, _ :: _ :: ran, hst, rfl⟩

/-- A worker has asked for its token and is driving its job, or has taken the job off the register
with the result. -/
theorem follows_runJob {rest : ServiceScript (Except ServiceError JobStatus)}
    (h : (s.runJob jobId).run.Follows log rest) :
    (log = [] ∧ ∀ result, rest ≠ .done result) ∨ ∃ token later,
      log = ⟨.register (.token jobId), token⟩ :: later ∧
        ((∃ t, (s.drive jobId token).run.Follows later t ∧ ∀ result, rest ≠ .done result) ∨
          ∃ driven result, later = driven ++ [⟨.register (.remove jobId), ()⟩] ∧
            (s.drive jobId token).run.Ran driven result ∧ rest = .done result) := by
  obtain h₁ | ⟨token, later, rfl, h₁⟩ := follows_register_bind h
  · exact .inl h₁
  refine .inr ⟨token, later, rfl, ?_⟩
  obtain ⟨t, ht, rfl⟩ | ⟨driven, result, log₂, rfl, hd, h₂⟩ := follows_lift_bind.1 h₁
  · refine .inl ⟨t, ht, fun result heq => ?_⟩
    cases t <;> cases heq
  · obtain ⟨rfl, h₃⟩ | ⟨_, log₃, rfl, h₃⟩ := follows_register_bind h₂
    · exact .inl ⟨.done result, by rw [List.append_nil]; exact hd, h₃⟩
    · obtain ⟨rfl, rfl⟩ := follows_done.1 h₃
      exact .inr ⟨driven, result, rfl, hd, rfl⟩

/-! ### All calls -/

inductive Call where
  | start
  | work
  | cancel
  deriving DecidableEq

namespace Call

/-- What a call gives when it succeeds. -/
abbrev Result : Call → Type
  | .start => Unit
  | .work => JobStatus
  | .cancel => Unit

def script (s : Service) (jobId : String) : (c : Call) →
    ServiceScript (Except ServiceError c.Result)
  | .start => (startProcessing jobId).run
  | .work => (s.runJob jobId).run
  | .cancel => (Service.cancel jobId).run

/-- The statuses to which a call may change the job. -/
def targets : Call → List JobStatus
  | .start => [.queued]
  | .work => [.running, .finished, .canceled, .error]
  | .cancel => [.canceled]

/-- The looks into the register that a call may take. -/
def looks (jobId : String) : Call → List RegisterOp
  | .start => [.assign jobId]
  | .work => [.token jobId, .remove jobId]
  | .cancel => [.trip jobId]

/-- What a call may ask. -/
def Asks (jobId : String) (c : Call) : ServiceOp → Prop
  | .store (.transition id status _) => id = jobId ∧ status ∈ c.targets
  | .store (.insert _ _) => False
  | .register op => op ∈ c.looks jobId
  | _ => True

end Call

section Asking

variable {P : ServiceOp → Prop}

theorem asks_store_bind {op : StoreOp} {f : op.Answer → Serving β} (h : P (.store op))
    (hf : ∀ value, (f value).run.Asks P) : (store op >>= f).run.Asks P := by
  refine ⟨h, fun answer => ?_⟩
  cases answer with
  | error e => trivial
  | ok value => exact hf value

theorem asks_register_bind {op : RegisterOp} {f : op.Answer → Serving β} (h : P (.register op))
    (hf : ∀ answer, (f answer).run.Asks P) : (register op >>= f).run.Asks P :=
  ⟨h, hf⟩

theorem asks_getJob_bind {f : Job → Serving β} (h : P (.store (.getJob jobId)))
    (hf : ∀ job, (f job).run.Asks P) : (getJob jobId >>= f).run.Asks P := by
  rw [getJob, bind_assoc]
  refine asks_store_bind h fun found => ?_
  cases found with
  | none => trivial
  | some job => exact hf job

theorem asks_lift_bind {script : ServiceScript α} {f : α → Serving β} (h : script.Asks P)
    (hf : ∀ value, (f value).run.Asks P) : (ExceptT.lift script >>= f).run.Asks P := by
  rw [run_lift_bind]
  exact h.bind hf

end Asking

/-- The change of status that records the end of a run. -/
def verdict : Except EngineError (List TaskOutcome) → JobStatus × Option String
  | .ok _ => (.finished, none)
  | .error e => if e.isCancelled then (.canceled, none) else (.error, some e.message)

/-- What settling the end of a run asks. -/
def Settles (jobId : String) (result : Except EngineError (List TaskOutcome)) (op : ServiceOp) :
    Prop :=
  op = .store (.transition jobId (verdict result).1 (verdict result).2) ∨
    op = .store (.getJob jobId) ∨ op = .store (.cancelPending jobId)

theorem asks_settle (result : Except EngineError (List TaskOutcome)) :
    (settle jobId result).run.Asks (Settles jobId result) := by
  cases result with
  | ok outcomes =>
      refine asks_store_bind (.inl rfl) fun made => ?_
      split
      · trivial
      · exact asks_getJob_bind (.inr (.inl rfl)) fun job => trivial
  | error error =>
      by_cases hc : error.isCancelled = true
      · have hverdict : verdict (.error error) = (.canceled, none) := if_pos hc
        rw [settle_of_cancelled hc]
        refine asks_store_bind (.inl (by rw [hverdict])) fun made => ?_
        exact asks_store_bind (.inr (.inr rfl)) fun count => trivial
      · have hverdict : verdict (.error error) = (.error, some error.message) := if_neg hc
        rw [settle_of_failed hc]
        refine asks_store_bind (.inl (by rw [hverdict])) fun made => ?_
        refine asks_store_bind (.inr (.inr rfl)) fun count => ?_
        split
        · split <;> trivial
        · trivial

theorem verdict_mem_targets (result : Except EngineError (List TaskOutcome)) :
    (verdict result).1 ∈ Call.work.targets := by
  cases result with
  | ok outcomes => simp [verdict, Call.targets]
  | error error =>
      rw [verdict]
      split <;> simp [Call.targets]

theorem asks_drive (token : Token) : (s.drive jobId token).run.Asks (Call.work.Asks jobId) := by
  refine asks_store_bind ⟨rfl, by simp [Call.targets]⟩ fun made => ?_
  split
  · refine asks_store_bind trivial fun tasks => asks_lift_bind ?_ fun result => ?_
    · refine (asks_ofEngine _ _).mono fun op works => ?_
      cases op with
      | store op => cases op <;> trivial
      | register op => exact False.elim works
      | send _ | pause _ _ | freshId => trivial
    · refine (asks_settle result).mono fun op settles => ?_
      obtain rfl | rfl | rfl := settles
      · exact ⟨rfl, verdict_mem_targets result⟩
      · trivial
      · trivial
  · refine asks_getJob_bind trivial fun job => ?_
    split <;> trivial

theorem Call.asks (c : Call) : (c.script s jobId).Asks (c.Asks jobId) := by
  cases c with
  | start =>
      refine asks_getJob_bind trivial fun job => ?_
      refine asks_store_bind ⟨rfl, by simp [targets]⟩ fun made => ?_
      split
      · exact ⟨by simp [Asks, looks], fun _ => trivial⟩
      · trivial
  | work =>
      refine asks_register_bind (by simp [Asks, looks]) fun token => ?_
      refine asks_lift_bind (asks_drive token) fun result => ?_
      exact asks_register_bind (by simp [Asks, looks]) fun _ => trivial
  | cancel =>
      refine asks_store_bind ⟨rfl, by simp [targets]⟩ fun made => ?_
      split
      · refine asks_store_bind trivial fun count => ?_
        exact ⟨by simp [Asks, looks], fun _ => trivial⟩
      · exact asks_getJob_bind trivial fun job => trivial

/-- A cancelling call that looks into the register has changed the status, and is done with that;
so has one that succeeds. -/
theorem follows_cancel {rest : ServiceScript (Except ServiceError Unit)}
    (h : (Service.cancel jobId).run.Follows log rest) :
    (∃ count, log = [⟨.store (.transition jobId .canceled none), .ok true⟩,
        ⟨.store (.cancelPending jobId), .ok count⟩, ⟨.register (.trip jobId), ()⟩]) ∨
      (∀ e ∈ log, e.op ≠ .register (.trip jobId)) ∧ rest ≠ .done (.ok ()) := by
  obtain ⟨rfl, going⟩ | ⟨e, rfl, rfl⟩ | ⟨made, later, rfl, h₁⟩ := follows_store_bind h
  · exact .inr ⟨by simp, going _⟩
  · exact .inr ⟨by simp, by simp⟩
  cases made with
  | true =>
      obtain ⟨rfl, going⟩ | ⟨e, rfl, rfl⟩ | ⟨count, last, rfl, h₂⟩ := follows_store_bind h₁
      · exact .inr ⟨by simp, going _⟩
      · exact .inr ⟨by simp, by simp⟩
      cases h₂ with
      | stop => exact .inr ⟨by simp, fun heq => by cases heq⟩
      | answered h₃ =>
          obtain ⟨rfl, rfl⟩ := follows_done.1 h₃
          exact .inl ⟨count, rfl⟩
  | false =>
      obtain ⟨rfl, going⟩ | ⟨answer, e, rfl, rfl, -⟩ | ⟨job, last, rfl, h₂⟩ :=
        follows_getJob_bind h₁
      · exact .inr ⟨by simp, going _⟩
      · exact .inr ⟨by simp, by simp⟩
      · obtain ⟨rfl, rfl⟩ := follows_done.1 h₂
        exact .inr ⟨by simp, by simp⟩

end Service
end ImageryJobs
