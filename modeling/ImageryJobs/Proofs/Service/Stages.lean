import ImageryJobs.Proofs.Service.Calls

/-!
Stages of calls: what a call about a job has asked so far says how far it has come.
-/

namespace ImageryJobs
namespace Service

open Script

variable {s : Service} {jobId : String} {α β : Type} {log : List ServiceEvent}

/-! ### Starting -/

theorem asks_startProcessing : (startProcessing jobId).run.Asks fun op =>
    op ∈ [.store (.getJob jobId), .store (.transition jobId .queued none),
      .register (.assign jobId)] := by
  refine asks_getJob_bind (by simp) fun job => asks_store_bind (by simp) fun made => ?_
  split
  · exact ⟨by simp, fun _ => trivial⟩
  · trivial

theorem ran_startProcessing (jobId : String) (job : Job) :
    (startProcessing jobId).run.Ran [⟨.store (.getJob jobId), .ok (some job)⟩,
      ⟨.store (.transition jobId .queued none), .ok true⟩, ⟨.register (.assign jobId), ()⟩] (.ok ()) :=
  .answered (.answered (.answered (.stop _)))

/-- A start that succeeds queued the job. -/
theorem queued_of_started (h : (startProcessing jobId).run.Ran log (.ok ())) :
    (.queued, true) ∈ changes jobId log := by
  obtain ⟨-, going⟩ | ⟨e, -, heq⟩ | ⟨-, heq⟩ | ⟨job, later, rfl, h₁⟩ := follows_read h
  · cases going
  · cases heq
  · cases heq
  · obtain ⟨-, going⟩ | ⟨e, -, heq⟩ | ⟨made, last, rfl, h₂⟩ := follows_store_bind h₁
    · exact absurd rfl (going _)
    · cases heq
    · cases made with
      | false =>
          obtain ⟨-, heq⟩ := follows_done.1 h₂
          cases heq
      | true =>
          change _ ∈ changes jobId (⟨.store (.transition jobId .queued none), .ok true⟩ :: last)
          rw [changes_transition]
          exact List.mem_cons_self

/-! ### Cancelling -/

theorem asks_cancel : (Service.cancel jobId).run.Asks fun op =>
    op ∈ [.store (.transition jobId .canceled none), .store (.cancelPending jobId),
      .register (.trip jobId), .store (.getJob jobId)] := by
  refine asks_store_bind (by simp) fun made => ?_
  split
  · exact asks_store_bind (by simp) fun count => ⟨by simp, fun _ => trivial⟩
  · exact asks_getJob_bind (by simp) fun job => trivial

/-! ### Working -/

/-- What a worker does that was refused its job: it reads the job, and tells why. -/
inductive Refused (jobId : String) (log : List ServiceEvent)
    (rest : ServiceScript (Except ServiceError JobStatus)) : Prop where
  | asking (asked : log = []) (going : rest.isDone = false)
  | unread (e : StoreError) (asked : log = [⟨.store (.getJob jobId), .error e⟩])
      (told : rest = .done (.error (.store e)))
  | missing (asked : log = [⟨.store (.getJob jobId), .ok none⟩])
      (told : rest = .done (.error (.jobNotFound jobId)))
  | read (job : Job) (asked : log = [⟨.store (.getJob jobId), .ok (some job)⟩])
      (told : rest = .done (if job.status = .canceled then .ok .canceled
        else .error (.invalidTransition jobId job.status .running)))

/-- How far driving a job has come. -/
inductive Driving (s : Service) (jobId : String) (token : Token) (log : List ServiceEvent)
    (rest : ServiceScript (Except ServiceError JobStatus)) : Prop where
  | asking (asked : log = []) (going : rest.isDone = false)
  | unanswered (e : StoreError)
      (asked : log = [⟨.store (.transition jobId .running none), .error e⟩])
  | refused (later : List ServiceEvent)
      (asked : log = ⟨.store (.transition jobId .running none), .ok false⟩ :: later)
      (reads : Refused jobId later rest)
  | taken (asked : log = [⟨.store (.transition jobId .running none), .ok true⟩])
      (going : rest.isDone = false)
  | unlisted (e : StoreError) (asked : log = [⟨.store (.transition jobId .running none), .ok true⟩,
        ⟨.store (.listTasks jobId), .error e⟩])
  | inside (tasks : List Task) (events : List ServiceEvent)
      (left : ServiceScript (Except EngineError (List TaskOutcome)))
      (asked : log = ⟨.store (.transition jobId .running none), .ok true⟩ ::
        ⟨.store (.listTasks jobId), .ok tasks⟩ :: events)
      (runs : (ServiceScript.ofEngine token (s.engine.run jobId tasks)).Follows events left)
      (going : left.isDone = false) (unfinished : rest.isDone = false)
  | settling (tasks : List Task) (events later : List ServiceEvent)
      (result : Except EngineError (List TaskOutcome))
      (asked : log = ⟨.store (.transition jobId .running none), .ok true⟩ ::
        ⟨.store (.listTasks jobId), .ok tasks⟩ :: (events ++ later))
      (ran : (ServiceScript.ofEngine token (s.engine.run jobId tasks)).Ran events result)
      (settles : (settle jobId result).run.Follows later rest)

theorem follows_drive_stages {token : Token}
    {rest : ServiceScript (Except ServiceError JobStatus)}
    (h : (s.drive jobId token).run.Follows log rest) : Driving s jobId token log rest := by
  obtain ⟨rfl, going⟩ | ⟨e, rfl, -⟩ | ⟨made, later, rfl, h₁⟩ := follows_store_bind h
  · exact .asking rfl (isDone_of_going going)
  · exact .unanswered e rfl
  cases made with
  | false =>
      refine .refused later rfl ?_
      obtain ⟨rfl, going⟩ | ⟨e, rfl, rfl⟩ | ⟨rfl, rfl⟩ | ⟨job, last, rfl, h₂⟩ := follows_read h₁
      · exact .asking rfl going
      · exact .unread e rfl rfl
      · exact .missing rfl rfl
      · by_cases hc : job.status = .canceled
        · rw [if_pos hc] at h₂
          obtain ⟨rfl, rfl⟩ := follows_done.1 h₂
          exact .read job rfl (by rw [if_pos hc])
        · rw [if_neg hc] at h₂
          obtain ⟨rfl, rfl⟩ := follows_done.1 h₂
          exact .read job rfl (by rw [if_neg hc])
  | true =>
      obtain ⟨rfl, going⟩ | ⟨e, rfl, -⟩ | ⟨tasks, last, rfl, h₂⟩ := follows_store_bind h₁
      · exact .taken rfl (isDone_of_going going)
      · exact .unlisted e rfl
      obtain ⟨left, hleft, rfl⟩ | ⟨events, result, settling, rfl, ran, h₃⟩ :=
        follows_lift_bind.1 h₂
      · cases left with
        | done result => exact .settling tasks last [] result (by simp) hleft (.stop _)
        | ask op next => exact .inside tasks last _ rfl hleft rfl rfl
      · exact .settling tasks events settling result rfl ran h₃

/-- What is left for a worker that was given the tasks: it runs the engine, settles the end and takes
the job off the register. -/
def remaining (jobId : String) (token : Token)
    (run : EngineScript (Except EngineError (List TaskOutcome))) :
    ServiceScript (Except ServiceError JobStatus) :=
  (do
    let result ← ExceptT.lift (do
      settle jobId (← ExceptT.lift (ServiceScript.ofEngine token run)) : Serving JobStatus).run
    register (.remove jobId)
    ExceptT.mk (pure result) : Serving JobStatus).run

theorem follows_listed (s : Service) (jobId : String) (token : Token) (tasks : List Task) :
    (s.runJob jobId).run.Follows [⟨.register (.token jobId), token⟩,
      ⟨.store (.transition jobId .running none), .ok true⟩, ⟨.store (.listTasks jobId), .ok tasks⟩]
      (remaining jobId token (s.engine.run jobId tasks)) :=
  .answered (.answered (.answered (.stop _)))

/-- A worker asks for its token, drives the job, and takes it off the register. -/
theorem follows_work {rest : ServiceScript (Except ServiceError JobStatus)}
    (h : (s.runJob jobId).run.Follows log rest) :
    (log = [] ∧ rest.isDone = false) ∨ ∃ token driven t, Driving s jobId token driven t ∧
      ((log = ⟨.register (.token jobId), token⟩ :: driven ∧ rest.isDone = false) ∨
        ∃ result, t = .done result ∧ rest = .done result ∧ log =
          ⟨.register (.token jobId), token⟩ :: (driven ++ [⟨.register (.remove jobId), ()⟩])) := by
  obtain ⟨rfl, going⟩ | ⟨token, later, rfl, ⟨t, ht, going⟩ | ⟨driven, result, rfl, ran, rfl⟩⟩ :=
    follows_runJob h
  · exact .inl ⟨rfl, isDone_of_going going⟩
  · exact .inr ⟨token, later, t, follows_drive_stages ht, .inl ⟨rfl, isDone_of_going going⟩⟩
  · exact .inr ⟨token, driven, _, follows_drive_stages ran, .inr ⟨result, rfl, rfl, rfl⟩⟩

end Service
end ImageryJobs
