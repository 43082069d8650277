import ImageryJobs.Proofs.Engine.Reports
import ImageryJobs.Proofs.Service.Execution
import ImageryJobs.Proofs.Service.Submission
import ImageryJobs.Proofs.Store.Updates

/-!
What calls write into the tasks of a job. A worker writes what its engine reports, in that order,
and cancels what is left when it records a failure; a cancelling call cancels what is left. A row is
the outcome of all that was written into it.
-/

namespace ImageryJobs
namespace Service

open Script

variable {s : Service} {jobId : String} {store : Store} {w : State} {log : List ServiceEvent}
  {α : Type}

/-- The operation by which an event writes into tasks. -/
def effectOf? : ServiceEvent → Option StoreOp
  | ⟨.store (.updateTask id update), _⟩ => some (.updateTask id update)
  | ⟨.store (.cancelPending id), _⟩ => some (.cancelPending id)
  | _ => none

theorem effectOf?_eq_some {e : ServiceEvent} {op : StoreOp} (h : effectOf? e = some op) :
    e.op = .store op ∧
      ((∃ id update, op = .updateTask id update) ∨ ∃ id, op = .cancelPending id) := by
  unfold effectOf? at h
  split at h
  · cases h
    exact ⟨rfl, .inl ⟨_, _, rfl⟩⟩
  · cases h
    exact ⟨rfl, .inr ⟨_, rfl⟩⟩
  · cases h

def effects (log : List ServiceEvent) : List StoreOp := log.filterMap effectOf?

@[simp] theorem effects_nil : effects [] = [] := rfl

@[simp] theorem effects_append (log log' : List ServiceEvent) :
    effects (log ++ log') = effects log ++ effects log' := List.filterMap_append

@[simp] theorem effects_register {op : RegisterOp} {answer : op.Answer} :
    effects (⟨.register op, answer⟩ :: log) = effects log := rfl

@[simp] theorem effects_transition {id : String} {status : JobStatus} {error : Option String}
    {answer : Except StoreError Bool} :
    effects (⟨.store (.transition id status error), answer⟩ :: log) = effects log := rfl

@[simp] theorem effects_listTasks {id : String} {answer : Except StoreError (List Task)} :
    effects (⟨.store (.listTasks id), answer⟩ :: log) = effects log := rfl

/-! ### Engines -/

/-- What is written when an event is reported. -/
def write (event : TaskEvent) : StoreOp := .updateTask event.update.1 event.update.2

/-- No update failed. -/
def Written (log : List ServiceEvent) : Prop :=
  ∀ id update e, ⟨.store (.updateTask id update), .error e⟩ ∉ log

theorem Written.tail {e : ServiceEvent} (h : Written (e :: log)) : Written log :=
  fun id update cause hm => h id update cause (List.mem_cons_of_mem _ hm)

/-- An event of a run as its worker sees it. -/
def served (token : Token) : Event engineInterface → ServiceEvent
  | ⟨.cluster (.send request), reply⟩ => ⟨.send request, reply⟩
  | ⟨.cluster (.pause span), tripped⟩ => ⟨.pause token span, tripped⟩
  | ⟨.report event, _⟩ => ⟨.store (write event), .ok ()⟩

theorem effects_served (token : Token) (elog : List (Event engineInterface)) :
    effects (elog.map (served token)) = (Engine.reports elog).map write := by
  induction elog with
  | nil => rfl
  | cons x elog ih =>
      obtain ⟨op, answer⟩ := x
      cases op with
      | cluster op => cases op <;> exact ih
      | report event => exact congrArg (write event :: ·) ih

/-- A run of the engine for a worker is one whose observer never fails, and what it reports is
written. -/
theorem follows_ofEngine {token : Token} {script : EngineScript α} {left : ServiceScript α}
    (h : (ServiceScript.ofEngine token script).Follows log left) (written : Written log) :
    ∃ elog t, script.Follows elog t ∧ Engine.Heard elog ∧ log = elog.map (served token) ∧
      ∀ value, left = .done value → t = .done value := by
  induction script generalizing log with
  | done value =>
      obtain ⟨rfl, rfl⟩ := follows_done.1 h
      refine ⟨[], _, .stop _, Engine.heard_nil, rfl, fun value heq => ?_⟩
      cases heq
      rfl
  | ask op next ih =>
      have stopped (going : left.isDone = false) :
          ∃ elog t, (Script.ask op next).Follows elog t ∧ Engine.Heard elog ∧
            [] = elog.map (served token) ∧ ∀ value, left = .done value → t = .done value := by
        refine ⟨[], _, .stop _, Engine.heard_nil, rfl, fun value heq => ?_⟩
        rw [heq] at going
        cases going
      cases op with
      | cluster op =>
          cases op with
          | send request =>
              cases h with
              | stop => exact stopped rfl
              | @answered _ _ reply later _ h =>
                  obtain ⟨elog, t, follows, heard, rfl, ends⟩ := ih reply h written.tail
                  exact ⟨_, t, .answered follows, heard.cluster, rfl, ends⟩
          | pause span =>
              cases h with
              | stop => exact stopped rfl
              | @answered _ _ tripped later _ h =>
                  obtain ⟨elog, t, follows, heard, rfl, ends⟩ := ih tripped h written.tail
                  exact ⟨_, t, .answered follows, heard.cluster, rfl, ends⟩
      | report event =>
          cases h with
          | stop => exact stopped rfl
          | @answered _ _ answer later _ h =>
              cases answer with
              | error e => exact absurd List.mem_cons_self (written _ _ e)
              | ok done =>
                  obtain ⟨elog, t, follows, heard, rfl, ends⟩ := ih (.ok ()) h written.tail
                  exact ⟨_, t, .answered follows, heard.report, rfl, ends⟩

/-! ### Settling -/

/-- What settling the end of a run does: it asks for one change of the status, and cancels what is
left of a run that failed. -/
structure Settling (jobId : String) (result : Except EngineError (List TaskOutcome))
    (log : List ServiceEvent) (done : Bool) : Prop where
  moves : ∀ st error answer, ⟨.store (.transition jobId st error), answer⟩ ∈ log →
    (st, error) = verdict result
  keeps : ∀ outcomes, result = .ok outcomes → effects log = []
  cancels : effects log = [] ∨ effects log = [.cancelPending jobId]
  ends : ∀ error, result = .error error → done = true → changes jobId log ≠ [] →
    effects log = [.cancelPending jobId]

theorem follows_withdraw {st : JobStatus} {text : Option String} {last : Serving JobStatus}
    {rest : ServiceScript (Except ServiceError JobStatus)}
    (hlast : ∀ log t, last.run.Follows log t → log = [])
    (h : (do
      let _ ← Service.store (.transition jobId st text)
      let _ ← Service.store (.cancelPending jobId)
      last : Serving JobStatus).run.Follows log rest) :
    (effects log = [] ∧ (rest.isDone = true → changes jobId log = [])) ∨
      effects log = [.cancelPending jobId] := by
  obtain ⟨rfl, -⟩ | ⟨e, rfl, -⟩ | ⟨made, later, rfl, h₁⟩ := follows_store_bind h
  · exact .inl ⟨rfl, fun _ => rfl⟩
  · exact .inl ⟨rfl, fun _ => rfl⟩
  obtain ⟨rfl, going⟩ | ⟨e, rfl, -⟩ | ⟨count, later, rfl, h₂⟩ := follows_store_bind h₁
  · refine .inl ⟨rfl, fun done => ?_⟩
    rw [isDone_of_going going] at done
    cases done
  · exact .inr rfl
  · obtain rfl := hlast _ _ h₂
    exact .inr rfl

theorem follows_settle_effects {result : Except EngineError (List TaskOutcome)}
    {rest : ServiceScript (Except ServiceError JobStatus)}
    (h : (settle jobId result).run.Follows log rest) : Settling jobId result log rest.isDone := by
  have moves (st : JobStatus) (error : Option String) (answer : Except StoreError Bool)
      (he : ⟨.store (.transition jobId st error), answer⟩ ∈ log) :
      (st, error) = verdict result := by
    obtain hop | hop | hop := (asks_settle result).follows h _ he <;> cases hop
    rfl
  cases result with
  | ok outcomes =>
      have quiet : effects log = [] := by
        obtain ⟨rfl, -⟩ | ⟨e, rfl, -⟩ | ⟨made, later, rfl, h₁⟩ := follows_store_bind h
        · rfl
        · rfl
        cases made with
        | true =>
            obtain ⟨rfl, -⟩ := follows_done.1 h₁
            rfl
        | false =>
            obtain ⟨rfl, -⟩ | ⟨e, rfl, -⟩ | ⟨rfl, -⟩ | ⟨job, last, rfl, h₂⟩ := follows_read h₁
            · rfl
            · rfl
            · rfl
            · obtain ⟨rfl, -⟩ := follows_done.1 h₂
              rfl
      exact ⟨moves, fun _ _ => quiet, .inl quiet, by simp⟩
  | error error =>
      have withdraws : (effects log = [] ∧ (rest.isDone = true → changes jobId log = [])) ∨
          effects log = [.cancelPending jobId] := by
        by_cases hc : error.isCancelled = true
        · rw [settle_of_cancelled hc] at h
          exact follows_withdraw (fun _ _ h => (follows_done.1 h).1) h
        · rw [settle_of_failed hc] at h
          refine follows_withdraw (fun later t h => ?_) h
          split at h
          · split at h <;> exact (follows_done.1 h).1
          · exact (follows_done.1 h).1
      obtain ⟨quiet, unmoved⟩ | cancels := withdraws
      · exact ⟨moves, by simp, .inl quiet, fun _ _ done hne => absurd (unmoved done) hne⟩
      · exact ⟨moves, by simp, .inr cancels, fun _ _ _ _ => cancels⟩

/-! ### Working -/

/-- What a worker does to the tasks of its job: nothing, or it writes what its engine reports and
then settles the end. -/
inductive Working (jobId : String) (log : List ServiceEvent) (done : Bool) : Prop where
  | idle (untouched : effects log = [])
      (calm : ∀ change ∈ changes jobId log, change.1 = .running)
  | engaged (tasks : List Task) (events : List TaskEvent) (told : Option (Except EngineError Unit))
      (settling : List ServiceEvent) (listed : ⟨.store (.listTasks jobId), .ok tasks⟩ ∈ log)
      (reported : Engine.Reported tasks events told)
      (wrote : effects log = events.map write ++ effects settling)
      (moved : changes jobId log = (.running, true) :: changes jobId settling)
      (within : ∀ e ∈ settling, e ∈ log)
      (ended : settling = [] ∨ ∃ result, told = some (result.map fun _ => ()) ∧
        Settling jobId result settling done)

theorem Written.of_subset {log' : List ServiceEvent} (h : Written log) (hs : ∀ e ∈ log', e ∈ log) :
    Written log' := fun id update cause hm => h id update cause (hs _ hm)

theorem Refused.untouched {rest : ServiceScript (Except ServiceError JobStatus)}
    (h : Refused jobId log rest) : effects log = [] ∧ changes jobId log = [] := by
  cases h with
  | asking asked _ | unread e asked _ | missing asked _ | read job asked _ =>
      rw [asked]
      exact ⟨rfl, rfl⟩

theorem follows_engine {token : Token} {tasks : List Task} {e : Engine}
    {left : ServiceScript (Except EngineError (List TaskOutcome))} (ready : Store.Ready tasks)
    (written : Written log)
    (h : (ServiceScript.ofEngine token (e.run jobId tasks)).Follows log left) :
    ∃ events told, Engine.Reported tasks events told ∧ effects log = events.map write ∧
      ∀ result, left = .done result → told = some (result.map fun _ => ()) := by
  obtain ⟨ordered, arena, planned⟩ := ready
  obtain ⟨elog, t, follows, heard, rfl, ends⟩ := follows_ofEngine h written
  rw [← ordered] at planned
  obtain ⟨told, reported, tells⟩ := Engine.follows_run planned follows heard
  rw [ordered] at reported
  exact ⟨_, told, reported, effects_served token elog, fun result heq => tells result (ends result heq)⟩

theorem Driving.working {token : Token} {rest : ServiceScript (Except ServiceError JobStatus)}
    (h : Driving s jobId token log rest)
    (ready : ∀ tasks, ⟨.store (.listTasks jobId), .ok tasks⟩ ∈ log → Store.Ready tasks)
    (written : Written log) : Working jobId log rest.isDone := by
  cases h with
  | asking asked _ => exact .idle (by simp [asked]) (by simp [asked])
  | unanswered e asked =>
      rw [asked]
      exact .idle rfl (by simp [changes, changeOf?])
  | refused later asked reads =>
      obtain ⟨untouched, unmoved⟩ := reads.untouched
      rw [asked]
      refine .idle untouched ?_
      rw [changes_transition, unmoved]
      exact List.forall_mem_singleton.2 rfl
  | taken asked _ =>
      rw [asked]
      refine .idle rfl ?_
      rw [changes_transition]
      exact List.forall_mem_singleton.2 rfl
  | unlisted e asked =>
      rw [asked]
      exact .idle rfl (by simp [changes, changeOf?])
  | inside tasks events left asked runs going unfinished =>
      have listed : ⟨.store (.listTasks jobId), .ok tasks⟩ ∈ log := by simp [asked]
      have sub : ∀ e ∈ events, e ∈ log := fun e he => by simp [asked, he]
      obtain ⟨told, reports, reported, hwrites, -⟩ :=
        follows_engine (ready tasks listed) (written.of_subset sub) runs
      refine .engaged tasks told reports [] listed reported ?_ ?_ (by simp) (.inl rfl)
      · simpa [asked] using hwrites
      · have quiet : changes jobId events = [] :=
          changes_of_works ((asks_ofEngine _ _).follows runs)
        rw [asked, changes_transition]
        exact congrArg _ quiet
  | settling tasks events later result asked ran settles =>
      have listed : ⟨.store (.listTasks jobId), .ok tasks⟩ ∈ log := by simp [asked]
      have sub : ∀ e ∈ events, e ∈ log := fun e he => by simp [asked, he]
      obtain ⟨reports, told, reported, hwrites, tells⟩ :=
        follows_engine (ready tasks listed) (written.of_subset sub) ran
      refine .engaged tasks reports told later listed reported ?_ ?_
        (fun e he => by simp [asked, he])
        (.inr ⟨result, tells result rfl, follows_settle_effects settles⟩)
      · simpa [asked] using hwrites
      · have quiet : changes jobId events = [] := changes_of_works ((asks_ofEngine _ _).follows ran)
        rw [asked, changes_transition]
        refine congrArg _ ?_
        change changes jobId (events ++ later) = _
        rw [changes_append, quiet, List.nil_append]

theorem follows_work_effects {rest : ServiceScript (Except ServiceError JobStatus)}
    (h : (s.runJob jobId).run.Follows log rest)
    (ready : ∀ tasks, ⟨.store (.listTasks jobId), .ok tasks⟩ ∈ log → Store.Ready tasks)
    (written : Written log) : Working jobId log rest.isDone := by
  obtain ⟨rfl, -⟩ | ⟨token, driven, t, hd, ends⟩ := follows_work h
  · exact .idle rfl (by simp)
  have sub : ∀ e ∈ driven, e ∈ log := by
    intro e he
    obtain ⟨rfl, -⟩ | ⟨-, -, -, rfl⟩ := ends <;> simp [he]
  have working := hd.working (fun tasks hm => ready tasks (sub _ hm)) (written.of_subset sub)
  have heffects : effects log = effects driven := by
    obtain ⟨rfl, -⟩ | ⟨-, -, -, rfl⟩ := ends <;> simp
  have hchanges : changes jobId log = changes jobId driven := by
    obtain ⟨rfl, -⟩ | ⟨-, -, -, rfl⟩ := ends <;> simp
  have hdone : rest.isDone = true → t.isDone = true := by
    obtain ⟨-, going⟩ | ⟨result, rfl, rfl, -⟩ := ends
    · simp [going]
    · exact id
  cases working with
  | idle untouched calm => exact .idle (heffects.trans untouched) (by rwa [hchanges])
  | engaged tasks events told settling listed reported wrote moved within ended =>
      refine .engaged tasks events told settling (sub _ listed) reported (heffects.trans wrote)
        (hchanges.trans moved) (fun e he => sub e (within e he)) (ended.imp_right ?_)
      rintro ⟨result, htold, hs⟩
      exact ⟨result, htold, hs.moves, hs.keeps, hs.cancels,
        fun error heq done => hs.ends error heq (hdone done)⟩

/-! ### Cancelling -/

/-- A cancelling call cancels what is left after it has moved the job, and is not done before. -/
theorem follows_cancel_effects {rest : ServiceScript (Except ServiceError Unit)}
    (h : (Service.cancel jobId).run.Follows log rest) :
    (effects log = [.cancelPending jobId] ∧ (.canceled, true) ∈ changes jobId log) ∨
      effects log = [] ∧ rest ≠ .done (.ok ()) ∧
        (rest.isDone = true → (.canceled, true) ∉ changes jobId log) := by
  obtain ⟨rfl, going⟩ | ⟨e, rfl, rfl⟩ | ⟨made, later, rfl, h₁⟩ := follows_store_bind h
  · exact .inr ⟨rfl, going _, by simp⟩
  · exact .inr ⟨rfl, by simp, by simp [changes, changeOf?]⟩
  cases made with
  | true =>
      have canceled (log : List ServiceEvent) : (.canceled, true) ∈ changes jobId
          (⟨.store (.transition jobId .canceled none), .ok true⟩ :: log) := by
        rw [changes_transition]
        exact List.mem_cons_self
      obtain ⟨rfl, going⟩ | ⟨e, rfl, -⟩ | ⟨count, last, rfl, h₂⟩ := follows_store_bind h₁
      · refine .inr ⟨rfl, going _, fun done => ?_⟩
        rw [isDone_of_going going] at done
        cases done
      · exact .inl ⟨rfl, canceled _⟩
      · refine .inl ⟨?_, canceled _⟩
        cases h₂ with
        | stop => rfl
        | answered h₃ =>
            obtain ⟨rfl, -⟩ := follows_done.1 h₃
            rfl
  | false =>
      refine .inr ?_
      obtain ⟨rfl, going⟩ | ⟨e, rfl, rfl⟩ | ⟨rfl, rfl⟩ | ⟨job, last, rfl, h₂⟩ := follows_read h₁
      · exact ⟨rfl, fun heq => (by rw [heq] at going; cases going), by simp [going]⟩
      · exact ⟨rfl, by simp, by simp [changes, changeOf?]⟩
      · exact ⟨rfl, by simp, by simp [changes, changeOf?]⟩
      · obtain ⟨rfl, rfl⟩ := follows_done.1 h₂
        exact ⟨rfl, by simp, by simp [changes, changeOf?]⟩

end Service

/-! ### Rows -/

namespace Shared

open Service (effectOf? effects)

variable {s : Shared}

theorem taskRows_after (jobId : String) (hs : s.store.Sound) {e : ServiceEvent}
    (hop : ∀ job tasks, e.op ≠ .store (.insert job tasks)) :
    (s.after e.op).store.Sound ∧ (s.after e.op).store.taskRows jobId =
      (s.store.taskRows jobId).map (Store.rowAfterAll (effectOf? e).toList) := by
  have same : s.store.taskRows jobId = (s.store.taskRows jobId).map (Store.rowAfterAll []) :=
    (List.map_id _).symm
  obtain ⟨op, answer⟩ := e
  cases op with
  | send _ | pause _ _ | register _ | freshId => exact ⟨hs, same⟩
  | store op =>
      have hop' : ∀ job tasks, op ≠ .insert job tasks := fun job tasks heq => by
        cases heq
        exact hop job tasks rfl
      refine ⟨Store.sound_apply hs op, ?_⟩
      change (op.apply s.store).2.taskRows jobId = _
      cases op with
      | insert job tasks => exact absurd rfl (hop' job tasks)
      | getJob _ | listTasks _ | transition _ _ _ | updateTask _ _ | cancelPending _ | health =>
          exact Store.taskRows_apply hs hop'

/-- The tasks of a job after a history are those before it with all that was written into them. -/
theorem taskRows_run (jobId : String) (hs : s.store.Sound) {h : List Entry}
    (hop : ∀ x ∈ h, ∀ job tasks, x.event.op ≠ .store (.insert job tasks)) :
    (s.run h).store.taskRows jobId =
      (s.store.taskRows jobId).map (Store.rowAfterAll (effects (h.map (·.event)))) := by
  induction h generalizing s with
  | nil => exact (List.map_id _).symm
  | cons x h ih =>
      obtain ⟨hx, hop⟩ := List.forall_mem_cons.1 hop
      obtain ⟨sound, hrows⟩ := taskRows_after jobId hs hx
      rw [run_cons, ih sound hop, hrows, List.map_map]
      refine List.map_congr_left fun row _ => ?_
      rw [Function.comp_apply, ← Store.rowAfterAll_append]
      congr 1
      rw [List.map_cons, effects, effects, List.filterMap_cons]
      cases effectOf? x.event <;> rfl

end Shared
end ImageryJobs
