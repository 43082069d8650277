import ImageryJobs.Proofs.Engine.Logs
import ImageryJobs.Proofs.Service.Consistency
import ImageryJobs.Proofs.Store.Histories

/-!
What the stored logs of a task hold of the texts that its worker read from the logs of pods: all of
them if the task finished, what the last request gave if it failed, and nothing if it was canceled.
-/

namespace ImageryJobs

open Script Service Store
open Engine (told)

namespace Engine.Reported

variable {tasks : List Task} {task : Task} {events l m : List TaskEvent} {event : TaskEvent}
  {told : Option (Except EngineError Unit)}

theorem update_of_mem (h : Reported tasks events told) (hevent : event ∈ events) :
    ∃ task ∈ tasks, event.update.1 = task.id := by
  induction h with
  | complete | waiting _ _ => cases hevent
  | begun task rest | withdrawn task rest _ | failed task rest _ =>
      refine ⟨task, List.mem_cons_self, ?_⟩
      simp only [List.mem_cons, List.not_mem_nil, or_false] at hevent
      first
        | obtain rfl := hevent; rfl
        | obtain rfl | rfl := hevent <;> rfl
  | finished task outcome _ ih =>
      obtain rfl | hevent := List.mem_cons.1 hevent
      · exact ⟨task, List.mem_cons_self, rfl⟩
      obtain rfl | hevent := List.mem_cons.1 hevent
      · exact ⟨task, List.mem_cons_self, rfl⟩
      · obtain ⟨task', ht, heq⟩ := ih hevent
        exact ⟨task', List.mem_cons_of_mem _ ht, heq⟩

theorem updatesOf_eq_nil (h : Reported tasks events told) {id : String}
    (hid : id ∉ tasks.map (·.id)) : updatesOf id (events.map write) = [] := by
  refine List.filterMap_eq_nil_iff.2 fun op hop => ?_
  obtain ⟨event, hevent, rfl⟩ := List.mem_map.1 hop
  obtain ⟨task, ht, heq⟩ := h.update_of_mem hevent
  exact if_neg fun heq' => hid (List.mem_map.2 ⟨task, ht, heq.symm.trans heq'⟩)

/-- A task that was started is next reported to have ended, and there are no other reports of it. -/
theorem updatesOf_eq (h : Reported tasks events told) (distinct : (tasks.map (·.id)).Nodup)
    (heq : events = l ++ .started task :: event :: m) :
    event.update.1 = task.id ∧
      updatesOf task.id (events.map write) = [.ofStatus .running, event.update.2] := by
  induction h generalizing l with
  | complete | waiting _ _ => simp at heq
  | begun _ _ | withdrawn _ _ _ =>
      have hlen := congrArg List.length heq
      simp at hlen
      omega
  | failed task' rest error =>
      cases l with
      | nil =>
          cases heq
          refine ⟨rfl, ?_⟩
          simp [updatesOf, updateOf?, write, TaskEvent.update]
      | cons _ l =>
          have hlen := congrArg List.length heq
          simp at hlen
          omega
  | @finished task' rest outcome events told h ih =>
      obtain ⟨hnew, distinct⟩ := List.nodup_cons.1 distinct
      cases l with
      | nil =>
          cases heq
          refine ⟨rfl, ?_⟩
          have others := h.updatesOf_eq_nil hnew
          simp only [updatesOf] at others
          simp [updatesOf, updateOf?, write, TaskEvent.update, others]
      | cons _ l =>
          cases l with
          | nil => simp at heq
          | cons _ l =>
              simp only [List.cons_append, List.cons.injEq] at heq
              obtain ⟨rfl, rfl, heq⟩ := heq
              obtain ⟨own, updates⟩ := ih distinct heq
              refine ⟨own, ?_⟩
              have started : .started task ∈ events := by simp [heq]
              obtain ⟨_, ht, hid⟩ := h.update_of_mem started
              have other : task'.id ≠ task.id := fun hsame =>
                hnew (List.mem_map.2 ⟨_, ht, (hsame.trans hid).symm⟩)
              simp only [updatesOf] at updates
              simp [updatesOf, updateOf?, write, TaskEvent.update, other, updates]

end Engine.Reported

namespace Service

variable {s : Service} {jobId : String} {store : Store} {w : State} {log : List ServiceEvent}
  {token : Token} {elog : List (Event engineInterface)}

/-! ### Requests of a worker -/

def exchange? : ServiceEvent → Option Exchange
  | ⟨.send request, reply⟩ => some ⟨request, reply⟩
  | _ => none

/-- What a call sent, in order. -/
def sent (log : List ServiceEvent) : List Exchange := log.filterMap exchange?

theorem sent_served : sent (elog.map (served token)) = EngineScript.traffic elog := by
  rw [sent, List.filterMap_map]
  refine List.filterMap_congr fun x _ => ?_
  obtain ⟨op, answer⟩ := x
  cases op with
  | report event => rfl
  | cluster op => cases op <;> rfl

theorem served_eq_send {x : Event engineInterface} {request : Request} {reply : Reply}
    (h : served token x = ⟨.send request, reply⟩) :
    x = EngineScript.ofClusterEvent ⟨.send request, reply⟩ := by
  obtain ⟨op, answer⟩ := x
  cases op with
  | report event => cases h
  | cluster op =>
      cases op with
      | send _ =>
          cases h
          rfl
      | pause span => cases h

theorem effects_of_quiet (quiet : Engine.calls elog = []) :
    effects (elog.map (served token)) = [] := by
  rw [effects_served, Engine.reports_of_calls quiet]
  rfl

/-- A request of a worker that returned was one of the engine. Nothing else that the worker did
updates tasks. -/
theorem ran_of_sent {result : Except ServiceError JobStatus} {before after : List ServiceEvent}
    {request : Request} {reply : Reply}
    (h : (s.runJob jobId).run.Ran (before ++ ⟨.send request, reply⟩ :: after) result)
    (written : Written (before ++ ⟨.send request, reply⟩ :: after)) :
    ∃ token listed early late outcome first last,
      before = first ++ early.map (served token) ∧ after = late.map (served token) ++ last ∧
      ⟨.store (.listTasks jobId), .ok listed⟩ ∈ first ∧
      (s.engine.run jobId listed).Ran
        (early ++ EngineScript.ofClusterEvent ⟨.send request, reply⟩ :: late) outcome ∧
      Engine.Heard (early ++ EngineScript.ofClusterEvent ⟨.send request, reply⟩ :: late) ∧
      ∀ id, updatesOf id (effects first) = [] ∧ updatesOf id (effects last) = [] := by
  obtain ⟨hnil, -⟩ | ⟨token, driven, t, hd, ⟨-, going⟩ | ⟨result', rfl, -, hlog⟩⟩ := follows_work h
  · simp at hnil
  · cases going
  have asks : IsRequest ⟨.send request, reply⟩ := ⟨request, rfl⟩
  have he : ⟨.send request, reply⟩ ∈ driven := by
    have hmem : ⟨.send request, reply⟩ ∈ before ++ ⟨.send request, reply⟩ :: after := by simp
    simpa [hlog] using hmem
  cases hd with
  | asking _ going | taken _ going => cases going
  | inside _ _ _ _ _ _ going => cases going
  | unanswered e asked | unlisted e asked => simp [asked] at he
  | refused later asked reads =>
      have hlater : ⟨.send request, reply⟩ ∈ later := by simpa [asked] using he
      exact absurd asks (reads.idle _ hlater).2
  | settling tasks events later outcome asked ran settles =>
      let first : List ServiceEvent := [⟨.register (.token jobId), token⟩,
        ⟨.store (.transition jobId .running none), .ok true⟩, ⟨.store (.listTasks jobId), .ok tasks⟩]
      let last : List ServiceEvent := later ++ [⟨.register (.remove jobId), ()⟩]
      have hwhole : before ++ ⟨.send request, reply⟩ :: after = first ++ (events ++ last) := by
        simp [hlog, asked, first, last]
      obtain ⟨elog, t, ran', heard, rfl, ends⟩ :=
        follows_ofEngine ran (written.of_subset fun e he => by simp [hwhole, he])
      obtain rfl := ends outcome rfl
      have unasked : ∀ e ∈ later, ¬ IsRequest e := fun e he =>
        (idle_of_settles ((asks_settle outcome).follows settles e he)).2
      -- The request stands between what was asked before the engine ran and what was asked after.
      obtain ⟨rest, hfirst, -⟩ | ⟨early', rfl, hsplit⟩ := append_eq_split hwhole.symm
      · have hmem : ⟨.send request, reply⟩ ∈ first := by simp [hfirst]
        simp [first] at hmem
      obtain ⟨late', hserved, rfl⟩ | ⟨rest, -, hlast⟩ := append_eq_split hsplit
      · obtain ⟨early, late, rfl, rfl, hlate⟩ := List.map_eq_append_iff.1 hserved
        obtain ⟨x, late, rfl, hx, rfl⟩ := List.map_eq_cons_iff.1 hlate
        obtain rfl := served_eq_send hx
        refine ⟨token, tasks, early, late, outcome, first, last, rfl, rfl, by simp [first], ran', heard,
          fun id => ⟨rfl, ?_⟩⟩
        obtain quiet | cancels := (follows_settle_effects settles).cancels
        · simp [last, quiet, updatesOf]
        · simp [last, cancels, updatesOf, updateOf?]
      · have hmem : ⟨.send request, reply⟩ ∈ last := by simp [hlast]
        refine absurd asks (unasked _ ?_)
        simpa [last] using hmem

/-! ### Stored logs -/

namespace Coherent

variable {tasks : List Task} {i : Nat} {id : String} {update : TaskUpdate}

theorem runs_of_update (h : Coherent s jobId store w) (sub : store.Submitted jobId tasks) {x : Entry}
    (hx : x ∈ w.history) (hu : (effectOf? x.event).bind (updateOf? id) = some update) :
    (.running, true) ∈ changes jobId (logOf x.caller w.history) := by
  obtain ⟨op, hop, hu⟩ := Option.bind_eq_some_iff.1 hu
  obtain ⟨rfl, -⟩ | ⟨rest, -, hrun⟩ := h.writer sub hx hop
  · cases hu
  · exact hrun

/-- Only one worker updates tasks. -/
theorem updatesOf_worker (h : Coherent s jobId store w) (sub : store.Submitted jobId tasks)
    (hne : updatesOf id (effects (logOf i w.history)) ≠ []) :
    updatesOf id (effects (w.history.map (·.event))) = updatesOf id (effects (logOf i w.history)) := by
  simp only [updatesOf, effects, List.filterMap_filterMap] at hne ⊢
  obtain ⟨update, hmem⟩ := List.exists_mem_of_ne_nil _ hne
  obtain ⟨e, he, hu⟩ := List.mem_filterMap.1 hmem
  have own := h.runs_of_update sub (mem_logOf.1 he) hu
  exact filterMap_logOf fun x hx update' hu' => h.made_unique (h.runs_of_update sub hx hu') own

/-- The engine updates a task when it is started and when it ends. -/
theorem updates_of_run (h : Coherent s jobId store w) (sub : store.Submitted jobId tasks)
    (token : Token) {listed : List Task} (he : ⟨.store (.listTasks jobId), .ok listed⟩ ∈ logOf i w.history)
    {outcome : Except EngineError (List TaskOutcome)} {earlier work later : List (Event engineInterface)}
    {task : Task} {event : TaskEvent} {answer : Except EngineError Unit}
    (helog : elog = earlier ++ told (.started task) (.ok ()) :: (work ++ told event answer :: later))
    (quiet : Engine.calls work = []) (ran : (s.engine.run jobId listed).Ran elog outcome)
    (heard : Engine.Heard elog) :
    event.update.1 = task.id ∧
      updatesOf task.id (effects (elog.map (served token))) = [.ofStatus .running, event.update.2] := by
  obtain ⟨ordered, arena, planned⟩ := sub.ready (h.planOf_listed sub he)
  rw [← ordered] at planned
  obtain ⟨told, reported, -⟩ := Engine.follows_run planned ran heard
  rw [ordered] at reported
  have distinct : (listed.map (·.id)).Nodup := h.ids_listed sub he ▸ sub.nodup_ids
  rw [effects_served]
  refine reported.updatesOf_eq distinct (l := Engine.reports earlier) (m := Engine.reports later) ?_
  have between : Engine.reports work = [] := Engine.reports_of_calls quiet
  rw [helog, Engine.reports_append]
  refine congrArg (Engine.reports earlier ++ TaskEvent.started task :: ·) ?_
  change Engine.reports (work ++ _) = _
  rw [Engine.reports_append, between]
  rfl

/-- A read of a worker that returned stands between the updates by which a task was started and
ended, and the worker does not update that task again. -/
theorem reported_of_read (h : Coherent s jobId store w) (sub : store.Submitted jobId tasks)
    {result : Except ServiceError JobStatus} (hi : w.result? i .work = some result)
    {before after : List ServiceEvent} {pod : String} {document : Document}
    (hl : logOf i w.history =
      before ++ ⟨.send (.get (podLogPath s.engine.ns pod)), .ok document⟩ :: after) :
    ∃ listed, ⟨.store (.listTasks jobId), .ok listed⟩ ∈ logOf i w.history ∧
      ∃ task ∈ listed, ∃ earlier work₁ work₂ event later,
        before = earlier ++ ⟨.store (.updateTask task.id (.ofStatus .running)), .ok ()⟩ :: work₁ ∧
        after = work₂ ++ ⟨.store (.updateTask task.id event.update.2), .ok ()⟩ :: later ∧
        effects work₁ = [] ∧ effects work₂ = [] ∧
        updatesOf task.id (effects (logOf i w.history)) = [.ofStatus .running, event.update.2] ∧
        let l := sent work₁ ++ ⟨.get (podLogPath s.engine.ns pod), .ok document⟩ :: sent work₂
        Engine.Noted.Reported ⟨task, logTexts s.engine.ns l, lastText s.engine.ns l⟩ event := by
  have ran : (s.runJob jobId).run.Ran (logOf i w.history) result :=
    h.follows i _ (State.result?_eq_some.1 hi)
  have written := h.written i
  rw [hl] at ran written
  obtain ⟨token, listed, early, late, outcome, first, last, rfl, rfl, he, runs, heard, untouched⟩ :=
    ran_of_sent ran written
  obtain ⟨task, ht, earlier, work₁, work₂, event, answer, later, rfl, quiet₁, rfl, quiet₂, reported⟩ :=
    Engine.ran_reads ⟨pod, rfl⟩ runs
  have he : ⟨.store (.listTasks jobId), .ok listed⟩ ∈ logOf i w.history := by simp [hl, he]
  let x : Event engineInterface :=
    EngineScript.ofClusterEvent ⟨.send (.get (podLogPath s.engine.ns pod)), .ok document⟩
  have whole : earlier ++ told (.started task) (.ok ()) :: work₁ ++
      x :: (work₂ ++ told event answer :: later) =
      earlier ++ told (.started task) (.ok ()) :: ((work₁ ++ x :: work₂) ++ told event answer :: later) := by
    simp
  have quiet : Engine.calls (work₁ ++ x :: work₂) = [] := by
    rw [Engine.calls_append, quiet₁]
    exact quiet₂
  obtain ⟨own, updates⟩ := h.updates_of_run sub token he whole quiet runs heard
  have hu : updatesOf task.id (effects (logOf i w.history)) = [.ofStatus .running, event.update.2] := by
    have hlog : logOf i w.history = first ++ ((earlier ++ told (.started task) (.ok ()) :: work₁ ++
        x :: (work₂ ++ told event answer :: later)).map (served token) ++ last) := by
      rw [hl, List.map_append, List.map_cons]
      simp [x, served, EngineScript.ofClusterEvent]
    rw [hlog, effects_append, effects_append, updatesOf_append, updatesOf_append, updates,
      (untouched task.id).1, (untouched task.id).2]
    rfl
  have hstart : served token (told (.started task) (.ok ())) =
      ⟨.store (.updateTask task.id (.ofStatus .running)), .ok ()⟩ := rfl
  have hend : served token (told event answer) =
      ⟨.store (.updateTask task.id event.update.2), .ok ()⟩ := by
    rw [← own]
    rfl
  refine ⟨listed, he, task, ht, first ++ earlier.map (served token), work₁.map (served token),
    work₂.map (served token), event, later.map (served token) ++ last, ?_, ?_,
    effects_of_quiet quiet₁, effects_of_quiet quiet₂, hu, ?_⟩
  · simp [hstart]
  · simp [hend]
  · rw [sent_served, sent_served]
    exact reported

theorem logs_of_updates (h : Coherent s jobId store w) (sub : store.Submitted jobId tasks)
    (blank : ∀ task ∈ tasks, task.logs = none) {listed : List Task} {task : Task}
    (he : ⟨.store (.listTasks jobId), .ok listed⟩ ∈ logOf i w.history) (ht : task ∈ listed)
    (hu : updatesOf task.id (effects (logOf i w.history)) = [.ofStatus .running, update]) :
    ∃ row ∈ w.shared.store.taskRows jobId, row.id = task.id ∧ row.logs = update.logs := by
  have known := List.mem_map_of_mem (f := (·.id)) ht
  rw [← h.ids_listed sub he, List.map_map] at known
  obtain ⟨t, ht, hid⟩ := List.mem_map.1 known
  have row : rowAfterAll (effects (w.history.map (·.event))) (.ofTask t) ∈
      w.shared.store.taskRows jobId := by
    rw [h.rows sub]
    exact List.mem_map_of_mem (List.mem_map_of_mem ht)
  refine ⟨_, row, (rowAfterAll_keeps _ _).1.trans hid, ?_⟩
  have own : (TaskRow.ofTask t).id = task.id := hid
  have unlogged : (TaskRow.ofTask t).logs = none := blank t ht
  have all : updatesOf task.id (effects (w.history.map (·.event))) = [.ofStatus .running, update] :=
    (h.updatesOf_worker sub (by simp [hu])).trans hu
  rw [overwrites_logs.rowAfterAll, lastGiven, own, all, unlogged, Option.or_none]
  cases logs : update.logs with
  | none => simp [TaskUpdate.ofStatus, logs]
  | some text => simp [TaskUpdate.ofStatus, logs]

end Coherent

/-- What the end of a task leaves in its stored logs of what was sent for it. -/
inductive Logged (ns : String) (l : List Exchange) (logs : Option String) (update : TaskUpdate) :
    Prop where
  | finished (status : update.status = some .finished) (kept : ∀ text ∈ logTexts ns l, KeptIn logs text)
  | failed (status : update.status = some .error) (last : logs = lastText ns l)
  | canceled (status : update.status = some .canceled) (dropped : logs = none)

theorem logged_of_reported {task : Task} {event : TaskEvent} {ns : String} {l : List Exchange}
    (h : Engine.Noted.Reported ⟨task, logTexts ns l, lastText ns l⟩ event) :
    Logged ns l event.update.2.logs event.update.2 := by
  cases h with
  | finished outcome kept => exact .finished rfl kept
  | failed error kept =>
      cases hc : error.isCancelled with
      | true =>
          have logs : error.logs? = none := by
            cases error <;> first | rfl | cases hc
          exact .canceled (by simp [TaskEvent.update, hc]) (by simp [TaskEvent.update, hc, logs])
      | false =>
          exact .failed (by simp [TaskEvent.update, hc]) (by simpa [TaskEvent.update, hc] using kept hc)

theorem Logged.keptIn_iff {ns : String} {l : List Exchange} {logs : Option String} {update : TaskUpdate}
    (h : Logged ns l logs update) {text : String} (htext : text ∈ logTexts ns l) :
    KeptIn logs text ↔ update.status = some .finished ∨
      update.status = some .error ∧ KeptIn (lastText ns l) text := by
  cases h with
  | finished status kept => simp [status, kept text htext]
  | failed status last => simp [status, last]
  | canceled status dropped => simp [status, dropped, KeptIn]

/-- The tasks of a job that was submitted have no logs. -/
theorem submitted_unlogged {userId : String} {request : Json} {job : Job} (sound : store.Sound)
    (ran : (s.submit userId request).run.Ran log (.ok job))
    (legal : (Shared.initial store).Legal (log.map (Entry.mk 0))) :
    ∃ tasks, ((Shared.initial store).run (log.map (Entry.mk 0))).store.Submitted job.id tasks ∧
      ∀ task ∈ tasks, task.logs = none := by
  obtain ⟨_, heq, -⟩ | ⟨_, tasks, heq, accepts, hi⟩ := store_of_submit ran legal
  · cases heq
  · cases heq
    refine ⟨tasks, submitted_of_insert sound accepts hi, fun task ht => ?_⟩
    rw [accepts.new task ht]
    rfl

/-- What was read was read at some moment. -/
theorem exists_read {ns text : String} (h : text ∈ logTexts ns (sent log)) :
    ∃ before pod document after,
      log = before ++ ⟨.send (.get (podLogPath ns pod)), .ok document⟩ :: after ∧
        document.toText = text := by
  obtain ⟨x, hx, htext⟩ := List.mem_filterMap.1 h
  obtain ⟨e, he, hex⟩ := List.mem_filterMap.1 hx
  obtain ⟨op, answer⟩ := e
  cases op with
  | pause _ _ | store _ | register _ | freshId => cases hex
  | send request =>
      cases hex
      by_cases reads : request.ReadsLog ns
      · rw [if_pos reads] at htext
        obtain ⟨pod, rfl⟩ := reads
        obtain ⟨before, after, rfl⟩ := List.append_of_mem he
        cases answer with
        | error cause => cases htext
        | ok document => exact ⟨before, pod, document, after, rfl, Option.some.inj htext⟩
      · rw [if_neg reads] at htext
        cases htext

/-! ### A job that is canceled -/

/-- The tasks of the submitted job. -/
def submittedTasks : List Task :=
  [.ofSpec "1" "0" ⟨0, "extract", (∅ : Dict String Json).insert "product_id" (.string "p"), []⟩,
    .ofSpec "2" "0" ⟨1, "convert", (∅ : Dict String Json).insert "job_id" (.string "0"), [0]⟩]

theorem ordered_submitted : Engine.ordered submittedTasks = submittedTasks :=
  List.mergeSort_of_pairwise (by decide)

def submittedJob : Job := .create "0" "u" (.mk [("product_id", .string "p")]) none

/-- The submitted job was started, and its worker was given the tasks. -/
def enteredHistory : List Entry :=
  [⟨.store (.getJob "0"), .ok (some submittedJob)⟩,
    ⟨.store (.transition "0" .queued none), .ok true⟩, ⟨.register (.assign "0"), ()⟩].map (Entry.mk 0) ++
  [⟨.register (.token "0"), 0⟩, ⟨.store (.transition "0" .running none), .ok true⟩,
    ⟨.store (.listTasks "0"), .ok submittedTasks⟩].map (Entry.mk 1)

def entered : State :=
  ⟨(Shared.initial sampleStored).run enteredHistory, [⟨.start, .done (.ok ())⟩,
    ⟨.work, remaining "0" 0 (graphService.engine.run "0" submittedTasks)⟩], enteredHistory⟩

theorem reachable_entered : Reachable graphService "0" sampleStored entered := by
  have called : Reachable graphService "0" sampleStored
      ⟨.initial sampleStored, [⟨.start, (startProcessing "0").run⟩,
        ⟨.work, (graphService.runJob "0").run⟩], []⟩ :=
    (Reachable.initial.step (.call _ .start)).step (.call _ .work)
  have read : sampleStored.getJob "0" = .ok (some submittedJob) := by decide +kernel
  have queued : (sampleStored.transition "0" .queued none).1 = true := by decide +kernel
  have running : ((sampleStored.transition "0" .queued none).2.transition "0" .running none).1 = true := by
    decide +kernel
  have rows : sampleStored.taskRows "0" = submittedTasks.map .ofTask := by
    have stored : sampleStored.tasks.values.filter (·.jobId = "0") = submittedTasks.map .ofTask := by
      decide +kernel
    rw [Store.taskRows, stored]
    exact List.mergeSort_of_pairwise (by decide +kernel)
  have listed : sampleStored.listTasks "0" = .ok submittedTasks := by
    rw [Store.listTasks, rows]
    decide +kernel
  have still : ((sampleStored.transition "0" .queued none).2.transition "0" .running none).2.listTasks "0" =
      .ok submittedTasks := by
    rw [Store.listTasks, Store.taskRows, tasks_transition, tasks_transition]
    exact listed
  have started := called.follow (i := 0) rfl (ran_startProcessing "0" submittedJob)
    ⟨read.symm, congrArg Except.ok queued.symm, rfl, trivial⟩
  exact started.follow (i := 1) rfl (follows_listed graphService "0" 0 submittedTasks)
    ⟨rfl, congrArg Except.ok running.symm, still.symm, trivial⟩

/-- A cluster on which every object of the first task is ready at once and has a pod. -/
def graphReply : Reply :=
  let tags := Json.ofList ["latest"] fun tag =>
    .mk [("tag", .string tag), ("items", .ofList [0] .ofNat)]
  let args := (∅ : Dict String Json).insert "product_id" (.string "p")
  .ok (.json (.mk [
    ("data", .ofDict (ConfigTemplate.forTask "0" "1" args []).data .string),
    ("items", .ofList ["q"] fun name => .mk [("metadata", .mk [("name", .string name)])]),
    ("status", .mk [("phase", .string "Bound"), ("succeeded", .ofNat 1),
      ("dockerImageRepository", .string "r"), ("tags", tags)])]))

/-- The submitted job is canceled when its worker has asked so many more questions. -/
def playCanceled (asked : Nat) : State :=
  entered.play graphService "0" graphReply (List.replicate asked (.ask 1) ++
    [.call .cancel, .ask 2, .ask 2, .ask 2] ++ List.replicate 16 (.ask 1))

/-- A request for the log of its pod was answered. -/
def ReadsPod (w : State) : Prop :=
  ∃ x ∈ sent (logOf 1 w.history), x.request = .get (podLogPath "ns" "q") ∧ x.reply.isOk = true

instance (w : State) : Decidable (ReadsPod w) := inferInstanceAs (Decidable (∃ x ∈ _, _ ∧ _))

theorem ReadsPod.exists_text (h : ReadsPod w) : ∃ text, text ∈ logTexts "ns" (sent (logOf 1 w.history)) := by
  obtain ⟨⟨request, reply⟩, hx, rfl, ok⟩ := h
  cases reply with
  | error cause => cases ok
  | ok document => exact ⟨_, mem_logTexts hx ⟨"q", rfl⟩ rfl⟩

/-! ### What is kept -/

/-- What a worker that returned read from the log of a pod it read for one task, between the updates
by which that was started and ended. The text is kept in the logs of the task if the task finished,
or if it failed and the text stands in what the last request for logs gave in the stage that failed.
A task that was canceled has no logs. -/
theorem logs_kept {userId : String} {request : Json} {job : Job} (sound : store.Sound)
    (submitted : (s.submit userId request).run.Ran log (.ok job))
    (legal : (Shared.initial store).Legal (log.map (Entry.mk 0)))
    (h : Reachable s job.id ((Shared.initial store).run (log.map (Entry.mk 0))).store w) {i : Nat}
    {result : Except ServiceError JobStatus} (hi : w.result? i .work = some result)
    {before after : List ServiceEvent} {pod : String} {document : Document}
    (hl : logOf i w.history =
      before ++ ⟨.send (.get (podLogPath s.engine.ns pod)), .ok document⟩ :: after) :
    ∃ row ∈ w.shared.store.taskRows job.id, ∃ earlier work₁ work₂ update later,
      before = earlier ++ ⟨.store (.updateTask row.id (.ofStatus .running)), .ok ()⟩ :: work₁ ∧
      after = work₂ ++ ⟨.store (.updateTask row.id update), .ok ()⟩ :: later ∧
      effects work₁ = [] ∧ effects work₂ = [] ∧
      let l := sent work₁ ++ ⟨.get (podLogPath s.engine.ns pod), .ok document⟩ :: sent work₂
      Logged s.engine.ns l row.logs update ∧
        (KeptIn row.logs document.toText ↔ update.status = some .finished ∨
          update.status = some .error ∧ KeptIn (lastText s.engine.ns l) document.toText) := by
  obtain ⟨tasks, sub, blank⟩ := submitted_unlogged sound submitted legal
  obtain ⟨listed, he, task, ht, earlier, work₁, work₂, event, later, hbefore, hafter, quiet₁, quiet₂,
    hu, reported⟩ := h.coherent.reported_of_read sub hi hl
  obtain ⟨row, hrow, hid, hlogs⟩ := h.coherent.logs_of_updates sub blank he ht hu
  refine ⟨row, hrow, earlier, work₁, work₂, event.update.2, later, hid ▸ hbefore, hid ▸ hafter, quiet₁,
    quiet₂, ?_⟩
  rw [hlogs]
  have logged := logged_of_reported reported
  refine ⟨logged, logged.keptIn_iff ?_⟩
  exact mem_logTexts (List.mem_append_right _ List.mem_cons_self) ⟨pod, rfl⟩ rfl

theorem logs_kept_sample :
    ∃ (job : Job) (w : State) (result : Except ServiceError JobStatus) (before after : List ServiceEvent)
      (pod : String) (document : Document) (row : TaskRow) (l : List Exchange) (update : TaskUpdate),
      (graphService.submit "u" sampleRequest).run.Ran sampleSubmission.1 (.ok job) ∧
      Reachable graphService job.id sampleStored w ∧ w.result? 1 .work = some result ∧
      logOf 1 w.history = before ++ ⟨.send (.get (podLogPath "ns" pod)), .ok document⟩ :: after ∧
      row ∈ w.shared.store.taskRows job.id ∧ Logged "ns" l row.logs update ∧
      (KeptIn row.logs document.toText ↔ update.status = some .finished ∨
        update.status = some .error ∧ KeptIn (lastText "ns" l) document.toText) := by
  obtain ⟨job, -, hid, submitted, legal⟩ := accepted_sample
  have reachable : Reachable graphService job.id sampleStored (playCanceled 15) :=
    hid.symm ▸ reachable_entered.play _ _
  have facts : ((playCanceled 15).result? 1 .work).isSome = true ∧ ReadsPod (playCanceled 15) := by
    rw [playCanceled, entered, Engine.run, ordered_submitted]
    decide +kernel
  obtain ⟨result, hi⟩ := Option.isSome_iff_exists.1 facts.1
  obtain ⟨text, htext⟩ := facts.2.exists_text
  obtain ⟨before, pod, document, after, hl, -⟩ := exists_read htext
  obtain ⟨row, hrow, _, _, _, update, _, -, -, -, -, logged, kept⟩ :=
    logs_kept Store.sound_empty submitted legal reachable hi hl
  exact ⟨job, _, result, before, after, pod, document, row, _, update, submitted, reachable, hi, hl, hrow,
    logged, kept⟩

/-- The logs of a task whose job is canceled while its batch job runs are read and lost. -/
theorem logs_dropped :
    ∃ (job : Job) (w : State) (result : Except ServiceError JobStatus) (text : String),
      (graphService.submit "u" sampleRequest).run.Ran sampleSubmission.1 (.ok job) ∧
      Reachable graphService job.id sampleStored w ∧ w.result? 1 .work = some result ∧
      text ∈ logTexts "ns" (sent (logOf 1 w.history)) ∧
      ∀ row ∈ w.shared.store.taskRows job.id, ¬ KeptIn row.logs text := by
  obtain ⟨job, -, hid, submitted, -⟩ := accepted_sample
  have reachable : Reachable graphService job.id sampleStored (playCanceled 10) :=
    hid.symm ▸ reachable_entered.play _ _
  have facts : ((playCanceled 10).result? 1 .work).isSome = true ∧ ReadsPod (playCanceled 10) ∧
      ∀ row ∈ (playCanceled 10).shared.store.tasks.values, row.logs = none := by
    rw [playCanceled, entered, Engine.run, ordered_submitted]
    decide +kernel
  obtain ⟨returned, read, unlogged⟩ := facts
  obtain ⟨result, hi⟩ := Option.isSome_iff_exists.1 returned
  obtain ⟨text, htext⟩ := read.exists_text
  refine ⟨job, _, result, text, submitted, reachable, hi, htext, fun row hrow kept => ?_⟩
  obtain ⟨stored, hstored, -⟩ := kept
  have hrow := (List.mergeSort_perm _ _).mem_iff.1 hrow
  rw [unlogged row (List.mem_of_mem_filter hrow)] at hstored
  cases hstored

end Service
end ImageryJobs
