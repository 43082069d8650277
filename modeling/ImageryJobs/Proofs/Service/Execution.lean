import ImageryJobs.Proofs.Failing
import ImageryJobs.Proofs.Orders
import ImageryJobs.Proofs.Service.Interleaving
import ImageryJobs.Proofs.Service.Stages

/-!
How often a job is executed: at most once, by the worker that moved it from queued to running. All
other workers leave it alone.
-/

namespace ImageryJobs

/-! ### Jobs that can be read -/

theorem JobRow.toJob_moved {row : JobRow} {job : Job} (h : row.toJob = .ok job) (st : JobStatus)
    (error : Option String) : ∃ job', (Store.moved row st error).toJob = .ok job' := by
  have held := toJob_eq_ok.1 h
  have regular : (Store.moved row st error).isRegular = true := by
    have created := held.regular
    rw [isRegular, Bool.and_eq_true] at created ⊢
    exact ⟨created.1, rfl⟩
  exact ⟨{ job with status := st, error := error.or row.error },
    toJob_eq_ok.2 { held with regular, status := rfl, error := rfl }⟩

namespace Store

variable {s s' : Store} {jobId : String}

theorem getJob_congr (h : s'.jobs = s.jobs) : s'.getJob jobId = s.getJob jobId := by
  rw [getJob, getJob, h]

theorem getJob_transition {found : Option Job} (h : s.getJob jobId = .ok found) (id : String)
    (st : JobStatus) (error : Option String) :
    ∃ found', (s.transition id st error).2.getJob jobId = .ok found' := by
  obtain ⟨row, hrow, -, ht⟩ | ⟨-, ht⟩ := s.transition_cases id st error
  · rw [ht, getJob, Dict.get?_insert]
    by_cases hid : jobId = id
    · subst hid
      rw [getJob, hrow] at h
      obtain ⟨job, hjob, -⟩ := map_eq_ok.1 h
      obtain ⟨job', hjob'⟩ := JobRow.toJob_moved hjob st error
      exact ⟨some job', by rw [if_pos rfl]; exact congrArg (Except.map some) hjob'⟩
    · exact ⟨found, by rw [if_neg hid]; exact h⟩
  · exact ⟨found, by rw [ht, h]⟩

end Store

namespace Shared

variable {s : Shared} {jobId : String}

theorem Past.run {h : List Entry} {n : Nat} (hp : s.Past jobId n) (hl : s.Legal h) :
    (s.run h).Past jobId n := by
  induction h generalizing s with
  | nil => exact hp
  | cons x h ih => exact ih (hp.after hl.1) hl.2

def Readable (s : Shared) (jobId : String) : Prop := ∃ found, s.store.getJob jobId = .ok found

theorem Readable.after (h : s.Readable jobId) {op : ServiceOp}
    (hop : ∀ job tasks, op ≠ .store (.insert job tasks)) : (s.after op).Readable jobId := by
  obtain ⟨found, hfound⟩ := h
  cases op with
  | send _ | pause _ _ | register _ | freshId => exact ⟨found, hfound⟩
  | store op =>
      cases op with
      | getJob _ | listTasks _ | cancelPending _ | health => exact ⟨found, hfound⟩
      | insert job tasks => exact absurd rfl (hop job tasks)
      | updateTask taskId update =>
          exact ⟨found, (Store.getJob_congr (Store.updateTask_jobs ..)).trans hfound⟩
      | transition id st error => exact Store.getJob_transition hfound id st error

theorem Readable.run {h : List Entry} (hs : s.Readable jobId)
    (hop : ∀ x ∈ h, ∀ job tasks, x.event.op ≠ .store (.insert job tasks)) :
    (s.run h).Readable jobId := by
  induction h generalizing s with
  | nil => exact hs
  | cons x h ih =>
      obtain ⟨hx, hop⟩ := List.forall_mem_cons.1 hop
      exact ih (hs.after hx) hop

end Shared

namespace Service

variable {s : Service} {jobId : String} {store : Store} {w : State} {log : List ServiceEvent}

/-! ### One call -/

/-- The tasks of the job are given out, with which the engine is entered. -/
def entersEngine (jobId : String) : ServiceEvent → Bool
  | ⟨.store (.listTasks id), .ok _⟩ => id = jobId
  | _ => false

def IsRequest (e : ServiceEvent) : Prop := ∃ r, e.op = .send r

/-- The engine has no part in an event. -/
def Idle (jobId : String) (e : ServiceEvent) : Prop := entersEngine jobId e = false ∧ ¬ IsRequest e

theorem idle_of_ne {e : ServiceEvent} (hlist : e.op ≠ .store (.listTasks jobId))
    (hsend : ∀ r, e.op ≠ .send r) : Idle jobId e := by
  refine ⟨?_, fun ⟨r, hr⟩ => hsend r hr⟩
  unfold entersEngine
  split
  · rename_i id tasks
    have hne : id ≠ jobId := fun heq => hlist (by rw [heq])
    exact decide_eq_false hne
  · rfl

/-- A call moves the job to running, is given its tasks, and runs the engine once. -/
def Executes (s : Service) (jobId : String) (log : List ServiceEvent) : Prop :=
  ∃ token tasks events later, log = ⟨.register (.token jobId), token⟩ ::
      ⟨.store (.transition jobId .running none), .ok true⟩ ::
      ⟨.store (.listTasks jobId), .ok tasks⟩ :: (events ++ later) ∧
    (∃ left, (ServiceScript.ofEngine token (s.engine.run jobId tasks)).Follows events left) ∧
    ∀ e ∈ later, Idle jobId e

theorem idle_register {op : RegisterOp} {answer : op.Answer} :
    Idle jobId ⟨.register op, answer⟩ := idle_of_ne (by simp) (by simp)

theorem idle_of_settles {result : Except EngineError (List TaskOutcome)} {e : ServiceEvent}
    (h : Settles jobId result e.op) : Idle jobId e := by
  obtain hop | hop | hop := h
  all_goals exact idle_of_ne (by simp [hop]) (by simp [hop])

theorem Refused.idle {rest : ServiceScript (Except ServiceError JobStatus)}
    (h : Refused jobId log rest) : ∀ e ∈ log, Idle jobId e := by
  cases h with
  | asking asked _ => simp [asked]
  | unread e asked _ | missing asked _ | read job asked _ =>
      rw [asked, List.forall_mem_singleton]
      exact idle_of_ne (by simp) (by simp)

theorem Driving.executes_or_idle {token : Token} {driven : List ServiceEvent}
    {rest : ServiceScript (Except ServiceError JobStatus)} (h : Driving s jobId token driven rest)
    {last : List ServiceEvent} (hlast : ∀ e ∈ last, Idle jobId e) :
    Executes s jobId (⟨.register (.token jobId), token⟩ :: (driven ++ last)) ∨
      ∀ e ∈ driven, Idle jobId e := by
  have moved (answer : Except StoreError Bool) :
      Idle jobId ⟨.store (.transition jobId .running none), answer⟩ :=
    idle_of_ne (by simp) (by simp)
  cases h with
  | asking asked _ => exact .inr (by simp [asked])
  | unanswered e asked => exact .inr (by simpa [asked] using moved (.error e))
  | refused later asked reads =>
      refine .inr ?_
      rw [asked, List.forall_mem_cons]
      exact ⟨moved (.ok false), reads.idle⟩
  | taken asked _ => exact .inr (by simpa [asked] using moved (.ok true))
  | unlisted e asked =>
      refine .inr ?_
      rw [asked, List.forall_mem_cons, List.forall_mem_singleton]
      exact ⟨moved (.ok true), rfl, fun ⟨r, hr⟩ => by cases hr⟩
  | inside tasks events left asked runs _ _ =>
      exact .inl ⟨token, tasks, events, last, by simp [asked], ⟨left, runs⟩, hlast⟩
  | settling tasks events later result asked ran settles =>
      refine .inl ⟨token, tasks, events, later ++ last, by simp [asked], ⟨_, ran⟩, fun e he => ?_⟩
      obtain he | he := List.mem_append.1 he
      · exact idle_of_settles ((asks_settle result).follows settles e he)
      · exact hlast e he

theorem executes_or_idle {rest : ServiceScript (Except ServiceError JobStatus)}
    (h : (s.runJob jobId).run.Follows log rest) :
    Executes s jobId log ∨ ∀ e ∈ log, Idle jobId e := by
  obtain ⟨rfl, -⟩ | ⟨token, driven, t, hd, ⟨rfl, -⟩ | ⟨result, rfl, rfl, rfl⟩⟩ := follows_work h
  · exact .inr (List.forall_mem_nil _)
  · obtain h | idle := hd.executes_or_idle (List.forall_mem_nil _)
    · rw [List.append_nil] at h
      exact .inl h
    · exact .inr (List.forall_mem_cons.2 ⟨idle_register, idle⟩)
  · have removal : ∀ e ∈ [(⟨.register (.remove jobId), ()⟩ : ServiceEvent)], Idle jobId e :=
      (List.forall_mem_singleton).2 idle_register
    refine (hd.executes_or_idle removal).imp_right fun idle => ?_
    exact List.forall_mem_cons.2 ⟨idle_register, List.forall_mem_append.2 ⟨idle, removal⟩⟩

theorem not_enters_of_works {e : ServiceEvent} (h : Works e.op) : entersEngine jobId e = false := by
  unfold entersEngine
  split
  · cases h
  · rfl

theorem Executes.countP (h : Executes s jobId log) : log.countP (entersEngine jobId) = 1 := by
  obtain ⟨token, tasks, events, later, rfl, ⟨left, runs⟩, idle⟩ := h
  have works : ∀ e ∈ events, ¬ entersEngine jobId e = true := fun e he => by
    simp [not_enters_of_works ((asks_ofEngine _ _).follows runs e he)]
  have settled : ∀ e ∈ later, ¬ entersEngine jobId e = true := fun e he => by simp [(idle e he).1]
  rw [List.countP_cons_of_neg (by simp [entersEngine]),
    List.countP_cons_of_neg (by simp [entersEngine]), List.countP_cons_of_pos (by simp [entersEngine]),
    List.countP_append,
    List.countP_eq_zero.2 works, List.countP_eq_zero.2 settled]

theorem Executes.made (h : Executes s jobId log) : (.running, true) ∈ changes jobId log := by
  obtain ⟨token, tasks, events, later, rfl, -⟩ := h
  rw [changes_register, changes_transition]
  exact List.mem_cons_self

/-- Before the engine has a part, the job was moved; before a request is sent, the engine was
entered. -/
theorem Executes.before (h : Executes s jobId log) {before after : List ServiceEvent}
    {e : ServiceEvent} (heq : log = before ++ e :: after) (he : ¬ Idle jobId e) :
    (.running, true) ∈ changes jobId before ∧
      (IsRequest e → ∃ x ∈ before, entersEngine jobId x = true) := by
  obtain ⟨token, tasks, events, later, rfl, -⟩ := h
  match before with
  | [] =>
      obtain ⟨rfl, -⟩ := List.cons.inj heq
      exact absurd idle_register he
  | [x] =>
      obtain ⟨-, heq⟩ := List.cons.inj heq
      obtain ⟨rfl, -⟩ := List.cons.inj heq
      exact absurd (idle_of_ne (by simp) (by simp)) he
  | x :: y :: rest =>
      simp only [List.cons_append, List.cons.injEq] at heq
      obtain ⟨rfl, rfl, heq⟩ := heq
      rw [changes_register, changes_transition]
      refine ⟨List.mem_cons_self, fun ⟨r, hr⟩ => ?_⟩
      cases rest with
      | nil =>
          obtain ⟨rfl, -⟩ := List.cons.inj heq
          cases hr
      | cons z rest =>
          obtain ⟨rfl, -⟩ := List.cons.inj heq
          exact ⟨⟨.store (.listTasks jobId), .ok tasks⟩, by simp, by simp [entersEngine]⟩

/-- What a worker gives that left a job alone. -/
def Declined (jobId : String) (result : Except ServiceError JobStatus) : Prop :=
  result = .ok .canceled ∨ result = .error (.jobNotFound jobId) ∨
    ∃ st, st ≠ .canceled ∧ result = .error (.invalidTransition jobId st .running)

theorem Refused.told {rest : ServiceScript (Except ServiceError JobStatus)}
    (h : Refused jobId log rest) :
    (log = [] ∧ rest.isDone = false) ∨ ∃ answer result,
      log = [⟨.store (.getJob jobId), answer⟩] ∧ rest = .done result ∧
        ((∃ e, answer = .error e) ∨ Declined jobId result) := by
  cases h with
  | asking asked going => exact .inl ⟨asked, going⟩
  | unread e asked told => exact .inr ⟨_, _, asked, told, .inl ⟨e, rfl⟩⟩
  | missing asked told => exact .inr ⟨_, _, asked, told, .inr (.inr (.inl rfl))⟩
  | read job asked told =>
      refine .inr ⟨_, _, asked, told, .inr ?_⟩
      by_cases hc : job.status = .canceled
      · exact .inl (if_pos hc)
      · exact .inr (.inr ⟨job.status, hc, if_neg hc⟩)

/-- A worker that did not move the job has asked four questions when it returns. -/
theorem follows_work_unmade {rest : ServiceScript (Except ServiceError JobStatus)}
    (h : (s.runJob jobId).run.Follows log rest) (hnot : (.running, true) ∉ changes jobId log)
    (answered : ∀ e, ⟨.store (.transition jobId .running none), .error e⟩ ∉ log) :
    (rest.isDone = true ↔ log.length = 4) ∧ ∀ result, rest = .done result →
      (∃ e, ⟨.store (.getJob jobId), .error e⟩ ∈ log) ∨ Declined jobId result := by
  obtain ⟨rfl, going⟩ | ⟨token, driven, t, hd, ends⟩ := follows_work h
  · rw [going]
    exact ⟨by simp, fun result heq => by rw [heq] at going; cases going⟩
  have sub : ∀ e ∈ driven, e ∈ log := by
    intro e he
    obtain ⟨rfl, -⟩ | ⟨-, -, -, rfl⟩ := ends <;> simp [he]
  have unmoved : ⟨.store (.transition jobId .running none), .ok true⟩ ∉ driven := fun hm =>
    hnot (List.mem_filterMap.2 ⟨_, sub _ hm, changeOf?_transition ..⟩)
  cases hd with
  | asking asked going =>
      obtain ⟨rfl, hrest⟩ | ⟨result, rfl, -⟩ := ends
      · rw [hrest]
        exact ⟨by simp [asked], fun result heq => by rw [heq] at hrest; cases hrest⟩
      · cases going
  | unanswered e asked => exact absurd (sub _ (by simp [asked])) (answered e)
  | refused later asked reads =>
      obtain ⟨rfl, going⟩ | ⟨answer, result, rfl, rfl, told⟩ := reads.told
      · obtain ⟨rfl, hrest⟩ | ⟨result, rfl, -⟩ := ends
        · rw [hrest]
          exact ⟨by simp [asked], fun result heq => by rw [heq] at hrest; cases hrest⟩
        · cases going
      · obtain ⟨rfl, hrest⟩ | ⟨result', heq, rfl, rfl⟩ := ends
        · rw [hrest]
          exact ⟨by simp [asked], fun result heq => by rw [heq] at hrest; cases hrest⟩
        · cases heq
          refine ⟨by simp [asked, Script.isDone], fun result' heq => ?_⟩
          cases heq
          refine told.imp_left fun ⟨e, he⟩ => ⟨e, sub _ ?_⟩
          simp [asked, he]
  | taken asked _ | unlisted e asked | inside tasks events left asked _ _ _
  | settling tasks events later result asked _ _ => exact absurd (by simp [asked]) unmoved

/-! ### All calls -/

theorem countP_logOf {i : Nat} {h : List Entry} {p : ServiceEvent → Bool}
    (hp : ∀ x ∈ h, p x.event = true → x.caller = i) :
    h.countP (p ·.event) = (logOf i h).countP p := by
  have filtered (l : List ServiceEvent) :
      l.countP p = (l.filterMap (Option.guard (p ·))).length := by
    rw [List.filterMap_eq_filter, List.countP_eq_length_filter]
  have hmap : h.countP (p ·.event) = (h.map (·.event)).countP p := List.countP_map.symm
  rw [hmap, filtered, filtered, filterMap_logOf fun x hx value hvalue => hp x hx ?_]
  exact (Option.guard_eq_some_iff.1 hvalue).2

namespace Coherent

/-- Where the engine has a part, a worker executes the job. -/
theorem executes (h : Coherent s jobId store w) {x : Entry} (hx : x ∈ w.history)
    (he : ¬ Idle jobId x.event) :
    ∃ rest, w.calls[x.caller]? = some ⟨.work, rest⟩ ∧
      Executes s jobId (logOf x.caller w.history) := by
  obtain ⟨⟨call, rest⟩, ho, -⟩ := h.asked hx
  have hfollows := h.follows _ _ ho
  cases call with
  | start =>
      have hop := asks_startProcessing.follows hfollows x.event (mem_logOf.2 hx)
      refine absurd (idle_of_ne ?_ fun r hr => ?_) he
      · intro hr
        simp [hr] at hop
      · simp [hr] at hop
  | cancel =>
      have hop := asks_cancel.follows hfollows x.event (mem_logOf.2 hx)
      refine absurd (idle_of_ne ?_ fun r hr => ?_) he
      · intro hr
        simp [hr] at hop
      · simp [hr] at hop
  | work =>
      obtain executes | idle := executes_or_idle hfollows
      · exact ⟨rest, ho, executes⟩
      · exact absurd (idle _ (mem_logOf.2 hx)) he

/-- A change that a caller made stands in the history, at one place. -/
theorem made_unique (h : Coherent s jobId store w) {i j : Nat} {st : JobStatus}
    (hi : (st, true) ∈ changes jobId (logOf i w.history))
    (hj : (st, true) ∈ changes jobId (logOf j w.history)) : i = j := by
  obtain ⟨e, he, hc⟩ := List.mem_filterMap.1 hi
  obtain ⟨e', he', hc'⟩ := List.mem_filterMap.1 hj
  exact congrArg (·.caller)
    (Shared.eq_of_made h.legal (mem_logOf.1 he) (mem_logOf.1 he') hc hc' rfl)

theorem countP_enters (h : Coherent s jobId store w) :
    w.history.countP (entersEngine jobId ·.event) ≤ 1 := by
  by_cases hnone : ∃ x ∈ w.history, entersEngine jobId x.event = true
  · obtain ⟨x, hx, he⟩ := hnone
    obtain ⟨-, -, executes⟩ := h.executes hx fun idle => by simp [idle.1] at he
    have same : ∀ y ∈ w.history, entersEngine jobId y.event = true → y.caller = x.caller := by
      intro y hy hy'
      obtain ⟨-, -, executes'⟩ := h.executes hy fun idle => by simp [idle.1] at hy'
      exact h.made_unique executes'.made executes.made
    exact Nat.le_of_eq ((countP_logOf same).trans executes.countP)
  · rw [List.countP_eq_zero.2 fun x hx he => hnone ⟨x, hx, he⟩]
    exact Nat.zero_le 1

theorem gives (h : Coherent s jobId store w) {x : Entry} (hx : x ∈ w.history) :
    ∃ before after, w.history = before ++ x :: after ∧
      ((Shared.initial store).run before).Gives x.event.op x.event.answer := by
  obtain ⟨before, after, heq⟩ := List.append_of_mem hx
  have legal := h.legal
  rw [heq, Shared.legal_append] at legal
  exact ⟨before, after, heq, legal.2.1⟩

theorem not_insert (h : Coherent s jobId store w) {x : Entry} (hx : x ∈ w.history) (job : Job)
    (tasks : List Task) : x.event.op ≠ .store (.insert job tasks) := by
  intro hop
  obtain ⟨o, -, hasks⟩ := h.asked hx
  rw [hop] at hasks
  exact hasks

/-- A worker that does not move the job leaves it alone, and tells after four questions why. -/
theorem leaves (h : Coherent s jobId store w) {i : Nat}
    {rest : ServiceScript (Except ServiceError JobStatus)} (hi : w.calls[i]? = some ⟨.work, rest⟩)
    (hnot : (.running, true) ∉ changes jobId (logOf i w.history)) :
    (∀ e ∈ logOf i w.history, Idle jobId e) ∧
      (rest.isDone = true ↔ (logOf i w.history).length = 4) ∧
      ((Shared.initial store).Readable jobId → ∀ result, rest = .done result →
        Declined jobId result) := by
  have moves (e : StoreError) :
      ⟨.store (.transition jobId .running none), .error e⟩ ∉ logOf i w.history := by
    intro he
    obtain ⟨before, after, heq, hg⟩ := h.gives (mem_logOf.1 he)
    cases hg
  have follows := h.follows i _ hi
  obtain ⟨hdone, htold⟩ := follows_work_unmade follows hnot moves
  refine ⟨?_, hdone, fun readable result heq => ?_⟩
  · obtain executes | idle := executes_or_idle follows
    · exact absurd executes.made hnot
    · exact idle
  · obtain ⟨e, he⟩ | declined := htold result heq
    · obtain ⟨before, after, heq, hg⟩ := h.gives (mem_logOf.1 he)
      obtain ⟨found, hfound⟩ := readable.run (h := before) fun x hx =>
        h.not_insert (heq ▸ List.mem_append_left _ hx)
      cases hg.trans hfound
    · exact declined

/-- The engine is entered by a worker that moved the job from queued to running before. -/
theorem entered (h : Coherent s jobId store w) {before after : List Entry} {x : Entry}
    (heq : w.history = before ++ x :: after) (he : entersEngine jobId x.event = true) :
    ∃ first y between, before = first ++ y :: between ∧ y.caller = x.caller ∧
      changeOf? jobId y.event = some (.running, true) ∧
      ((Shared.initial store).run first).status jobId = some JobStatus.queued.name := by
  have active : ¬ Idle jobId x.event := fun idle => by simp [idle.1] at he
  obtain ⟨-, -, executes⟩ := h.executes (heq ▸ by simp) active
  have hlog := (congrArg (logOf x.caller) heq).trans logOf_at
  obtain ⟨e, hmem, hc⟩ := List.mem_filterMap.1 (executes.before hlog active).1
  obtain ⟨first, between, rfl⟩ := List.append_of_mem (mem_logOf.1 hmem)
  refine ⟨first, _, between, rfl, rfl, hc, ?_⟩
  have legal := h.legal
  rw [heq, List.append_assoc, Shared.legal_append] at legal
  obtain ⟨⟨p, hp, hst⟩, -⟩ := Shared.status_of_made legal.2.1 hc
  rw [hst, List.mem_singleton.1 hp]

/-- Only a worker that has entered the engine sends requests. -/
theorem request_after_entry (h : Coherent s jobId store w) {before after : List Entry} {x : Entry}
    (heq : w.history = before ++ x :: after) (hr : IsRequest x.event) :
    ∃ y ∈ before, entersEngine jobId y.event = true ∧ y.caller = x.caller := by
  have active : ¬ Idle jobId x.event := fun idle => idle.2 hr
  obtain ⟨-, -, executes⟩ := h.executes (heq ▸ by simp) active
  have hlog := (congrArg (logOf x.caller) heq).trans logOf_at
  obtain ⟨e, he, henters⟩ := (executes.before hlog active).2 hr
  exact ⟨_, mem_logOf.1 he, henters, rfl⟩

/-- After a cancellation of the queued job nothing enters the engine. -/
theorem idle_of_canceled (h : Coherent s jobId store w) {before after : List Entry} {x : Entry}
    (heq : w.history = before ++ x :: after) (hc : changeOf? jobId x.event = some (.canceled, true))
    (hq : ((Shared.initial store).run before).status jobId = some JobStatus.queued.name) :
    ∀ y ∈ w.history, Idle jobId y.event := by
  intro y hy
  by_contra active
  obtain ⟨-, -, executes⟩ := h.executes hy active
  obtain ⟨e, he, hrun⟩ := List.mem_filterMap.1 executes.made
  have legal := h.legal
  rw [heq] at legal
  have hmem : (⟨y.caller, e⟩ : Entry) ∈ before ++ x :: after := heq ▸ mem_logOf.1 he
  obtain hbefore | hafter := List.mem_append.1 hmem
  · -- The job was running before, so it cannot have been queued.
    obtain ⟨first, between, rfl⟩ := List.append_of_mem hbefore
    rw [Shared.legal_append, Shared.legal_append] at legal
    obtain ⟨⟨-, hg, hbetween⟩, -⟩ := legal
    have past := (Shared.past_of_made hg hrun).run hbetween
    rw [Shared.run_append, Shared.run_cons] at hq
    obtain ⟨st, hst, hle⟩ := past
    obtain rfl := JobStatus.name_inj (Option.some.inj (hst.symm.trans hq))
    exact absurd hle (by decide)
  · obtain heq' | hafter := List.mem_cons.1 hafter
    · rw [← heq'] at hc
      cases hc.symm.trans hrun
    · rw [List.append_cons] at legal
      exact absurd (Shared.rank_lt_of_made legal (by simp) hafter hc hrun) (by decide)

end Coherent

/-- A job is started once and executed once at most. The engine is entered by the worker that moved
the job from queued to running, and only that worker sends requests; nobody does when the job was
canceled while it was queued. Every other worker returns after four questions without a request. -/
theorem executed_once (h : Reachable s jobId store w) :
    (∀ i j, w.result? i .start = some (.ok ()) → w.result? j .start = some (.ok ()) → i = j) ∧
      w.history.countP (entersEngine jobId ·.event) ≤ 1 ∧
      (∀ before x after, w.history = before ++ x :: after → entersEngine jobId x.event = true →
        (∃ rest, w.calls[x.caller]? = some ⟨.work, rest⟩) ∧
          Executes s jobId (logOf x.caller w.history) ∧
          ∃ first y between, before = first ++ y :: between ∧ y.caller = x.caller ∧
            changeOf? jobId y.event = some (.running, true) ∧
            ((Shared.initial store).run first).status jobId = some JobStatus.queued.name) ∧
      (∀ before x after, w.history = before ++ x :: after → IsRequest x.event →
        ∃ y ∈ before, entersEngine jobId y.event = true ∧ y.caller = x.caller) ∧
      (∀ before x after, w.history = before ++ x :: after →
        changeOf? jobId x.event = some (.canceled, true) →
        ((Shared.initial store).run before).status jobId = some JobStatus.queued.name →
        ∀ y ∈ w.history, entersEngine jobId y.event = false ∧ ¬ IsRequest y.event) ∧
      ∀ i rest, w.calls[i]? = some ⟨.work, rest⟩ →
        (.running, true) ∉ changes jobId (logOf i w.history) →
        (∀ e ∈ logOf i w.history, entersEngine jobId e = false ∧ ¬ IsRequest e) ∧
          (rest.isDone = true ↔ (logOf i w.history).length = 4) ∧
          ((∃ found, store.getJob jobId = .ok found) → ∀ result, rest = .done result →
            result = .ok .canceled ∨ result = .error (.jobNotFound jobId) ∨
              ∃ st, st ≠ .canceled ∧ result = .error (.invalidTransition jobId st .running)) := by
  have coherent := h.coherent
  refine ⟨fun i j hi hj => ?_, coherent.countP_enters, fun before x after heq he => ?_,
    fun before x after heq hr => coherent.request_after_entry heq hr,
    fun before x after heq hc hq => coherent.idle_of_canceled heq hc hq,
    fun i rest hi hnot => coherent.leaves hi hnot⟩
  · exact coherent.made_unique
      (queued_of_started (coherent.follows i _ (State.result?_eq_some.1 hi)))
      (queued_of_started (coherent.follows j _ (State.result?_eq_some.1 hj)))
  · have active : ¬ Idle jobId x.event := fun idle => by simp [idle.1] at he
    obtain ⟨rest, hi, executes⟩ := coherent.executes (heq ▸ by simp) active
    exact ⟨⟨rest, hi⟩, executes, coherent.entered heq he⟩

theorem executed_once_sample :
    ∃ w before x after, Reachable sampleService "j" sampleStore w ∧
      w.history = before ++ x :: after ∧ IsRequest x.event ∧
      w.history.countP (entersEngine "j" ·.event) ≤ 1 ∧
      (∃ y ∈ before, entersEngine "j" y.event = true ∧ y.caller = x.caller) ∧
      w.result? 2 .work = some (.error (.invalidTransition "j" .running .running)) := by
  let moves := sampleWork ++ [.call .work] ++ List.replicate 4 (.ask 2) ++ List.replicate 3 (.ask 1)
  have reachable := reachable_playSample moves
  have sent : ∃ x ∈ (playSample moves).history,
      (match x.event.op with | .send _ => true | _ => false) = true := by decide +kernel
  obtain ⟨x, hx, hop⟩ := sent
  have request : IsRequest x.event := by
    split at hop
    · rename_i r hr
      exact ⟨r, hr⟩
    · cases hop
  obtain ⟨before, after, heq⟩ := List.append_of_mem hx
  obtain ⟨-, once, -, requests, -⟩ := executed_once reachable
  exact ⟨_, before, x, after, reachable, heq, request, once, requests before x after heq request,
    by decide +kernel⟩

end Service
end ImageryJobs
