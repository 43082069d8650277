import ImageryJobs.Proofs.Service.Report
import ImageryJobs.Proofs.Service.Standing

/-!
The status of a job against those of its tasks, for any order of the steps of the calls about it.
-/

namespace ImageryJobs

open Script
open Service (changeOf? changes effectOf? effects write)

/-! ### The error of a job -/

/-- A job has a text of an error just if it failed. -/
def JobRow.Explained (row : JobRow) : Prop :=
  row.error.isSome = true ↔ row.status = JobStatus.error.name

theorem JobRow.Explained.moved {row : JobRow} {st : JobStatus} {error : Option String}
    (h : row.Explained) (hadm : Store.admits row st = true)
    (told : error.isSome = true ↔ st = .error) :
    row.error = none ∧ (Store.moved row st error).Explained := by
  obtain ⟨p, hp, hname⟩ := Store.admits_iff.1 hadm
  have unfailed : row.error = none := by
    by_contra hsome
    have hst := h.1 (Option.isSome_iff_ne_none.2 hsome)
    obtain rfl := JobStatus.name_inj (hname.trans hst)
    cases st <;> simp [JobStatus.predecessors] at hp
  refine ⟨unfailed, ?_⟩
  rw [Explained, Store.moved, unfailed, Option.or_none, told]
  exact ⟨fun heq => congrArg JobStatus.name heq, JobStatus.name_inj⟩

namespace Service

variable {s : Service} {jobId : String}

/-- A change to a failed job comes with a text, and no other does. -/
def Tells (jobId : String) (op : ServiceOp) : Prop :=
  ∀ st error, op = .store (.transition jobId st error) → (error.isSome = true ↔ st = .error)

theorem tells_settle (result : Except EngineError (List TaskOutcome)) :
    (settle jobId result).run.Asks (Tells jobId) := by
  refine (asks_settle result).mono fun op settles st error heq => ?_
  subst heq
  obtain hop | hop | hop := settles <;> cases hop
  cases result with
  | ok outcomes => simp [verdict]
  | error e =>
      rw [verdict]
      split <;> simp

theorem tells_drive (token : Token) : (s.drive jobId token).run.Asks (Tells jobId) := by
  refine asks_store_bind (by simp [Tells]) fun made => ?_
  split
  · refine asks_store_bind (by simp [Tells]) fun tasks => asks_lift_bind ?_ tells_settle
    refine (asks_ofEngine _ _).mono fun op works st error heq => ?_
    rw [heq] at works
    cases works
  · refine asks_getJob_bind (by simp [Tells]) fun job => ?_
    split <;> trivial

theorem Call.tells (c : Call) : (c.script s jobId).Asks (Tells jobId) := by
  cases c with
  | start =>
      refine asks_startProcessing.mono fun op hop st error heq => ?_
      simp only [heq] at hop
      simp at hop
      simp [hop]
  | cancel =>
      refine asks_cancel.mono fun op hop st error heq => ?_
      simp only [heq] at hop
      simp at hop
      simp [hop]
  | work =>
      refine asks_register_bind (by simp [Tells]) fun token => ?_
      refine asks_lift_bind (tells_drive token) fun result => ?_
      exact asks_register_bind (by simp [Tells]) fun _ => trivial

end Service

namespace Shared

variable {s : Shared} {jobId : String} {h : List Entry} {row : JobRow}

theorem row_of_final {st : JobStatus} (hl : s.Legal h) (hrow : s.store.jobs.get? jobId = some row)
    (hst : row.status = st.name) (hf : st.isFinal = true) :
    (s.run h).store.jobs.get? jobId = some row := by
  induction h generalizing s with
  | nil => exact hrow
  | cons x h ih =>
      obtain ⟨st', error, -, -, hadm, -⟩ | hsame := row_after hl.1 hrow
      · obtain ⟨p, hp, hname⟩ := Store.admits_iff.1 hadm
        obtain rfl := JobStatus.name_inj (hname.trans hst)
        have hlt := JobStatus.rank_lt hp
        have hle := st'.rank_le
        have hrank := JobStatus.isFinal_iff.1 hf
        omega
      · exact ih hl.2 hsame

theorem explained_run (hl : s.Legal h) (told : ∀ x ∈ h, Service.Tells jobId x.event.op)
    (hrow : s.store.jobs.get? jobId = some row) (explained : row.Explained) :
    ∃ row', (s.run h).store.jobs.get? jobId = some row' ∧ row'.Explained := by
  induction h generalizing s row with
  | nil => exact ⟨row, hrow, explained⟩
  | cons x h ih =>
      obtain ⟨htold, told⟩ := List.forall_mem_cons.1 told
      obtain ⟨st, error, -, hop, hadm, hafter⟩ | hsame := row_after hl.1 hrow
      · exact ih hl.2 told hafter (explained.moved hadm (htold st error hop)).2
      · exact ih hl.2 told hsame explained

end Shared

/-! ### Who writes -/

theorem Store.Submitted.jobId_of_mem {store : Store} {jobId : String} {tasks : List Task}
    (h : store.Submitted jobId tasks) {ops : List StoreOp} {row : TaskRow}
    (hrow : row ∈ (tasks.map .ofTask).map (Store.rowAfterAll ops)) : row.jobId = jobId := by
  obtain ⟨row', hrow', rfl⟩ := List.mem_map.1 hrow
  obtain ⟨-, -, -, hjob⟩ := Store.rowAfterAll_keeps ops row'
  exact hjob.trans (Store.jobId_of_mem (h.stored ▸ hrow'))

theorem Store.Submitted.untouched {store : Store} {jobId : String} {tasks : List Task}
    (h : store.Submitted jobId tasks) : Untouched (tasks.map .ofTask) :=
  List.forall_mem_map.2 fun task htask => congrArg TaskStatus.name (h.fresh task htask).1

theorem Store.Submitted.nodup_ids {store : Store} {jobId : String} {tasks : List Task}
    (h : store.Submitted jobId tasks) : ((tasks.map TaskRow.ofTask).map (·.id)).Nodup := by
  rw [← h.stored]
  exact Store.nodup_ids h.sound jobId

/-- The calls that change the tasks of a job have returned: every one that cancels, and the worker
that made the job run. -/
def Service.State.Settled (jobId : String) (w : State) : Prop :=
  ∀ i o, w.calls[i]? = some o →
    (o.call = .cancel ∨ (.running, true) ∈ changes jobId (logOf i w.history)) → o.rest.isDone = true

namespace Service.Coherent

variable {s : Service} {jobId : String} {store : Store} {tasks : List Task} {w : State}

theorem run_before (h : Coherent s jobId store w) (sub : store.Submitted jobId tasks)
    {before after : List Entry} (heq : w.history = before ++ after) :
    ((Shared.initial store).run before).store.taskRows jobId =
      (tasks.map .ofTask).map (Store.rowAfterAll (effects (before.map (·.event)))) := by
  rw [← sub.stored]
  exact Shared.taskRows_run jobId sub.sound fun x hx =>
    h.not_insert (heq ▸ List.mem_append_left _ hx)

theorem rows (h : Coherent s jobId store w) (sub : store.Submitted jobId tasks) :
    w.shared.store.taskRows jobId =
      (tasks.map .ofTask).map (Store.rowAfterAll (effects (w.history.map (·.event)))) := by
  rw [h.shared]
  exact h.run_before sub (List.append_nil _).symm

/-- Whatever happens to the tasks, they stand in the order of their numbers. -/
theorem numbered (h : Coherent s jobId store w) (sub : store.Submitted jobId tasks) :
    ∃ n, (w.shared.store.taskRows jobId).map (·.seqNum) =
      (List.range (n + 1)).map fun k : Nat => .integer k := by
  obtain ⟨n, numbered⟩ := sub.numbered
  refine ⟨n, ?_⟩
  rw [h.rows sub, ← numbered, List.map_map, List.map_map, List.map_map]
  refine List.map_congr_left fun task _ => ?_
  obtain ⟨-, hnum, -⟩ :=
    Store.rowAfterAll_keeps (effects (w.history.map (·.event))) (.ofTask task)
  exact hnum

/-- Tasks that were listed are those that were submitted, as far as a plan goes. -/
theorem planOf_listed (h : Coherent s jobId store w) (sub : store.Submitted jobId tasks) {i : Nat}
    {listed : List Task}
    (he : ⟨.store (.listTasks jobId), .ok listed⟩ ∈ logOf i w.history) :
    listed.map Store.planOf = tasks.map Store.planOf := by
  obtain ⟨before, after, heq, hg⟩ := h.gives (mem_logOf.1 he)
  have hread : ((Shared.initial store).run before).store.listTasks jobId = .ok listed := hg.symm
  refine Store.planOf_of_coreOf (Store.coreOf_listed ?_ hread)
  rw [h.run_before sub heq, List.map_map, List.map_map]
  exact List.map_congr_left fun task _ => Store.core_rowAfterAll _ _

theorem ids_listed (h : Coherent s jobId store w) (sub : store.Submitted jobId tasks) {i : Nat}
    {listed : List Task} (he : ⟨.store (.listTasks jobId), .ok listed⟩ ∈ logOf i w.history) :
    (tasks.map TaskRow.ofTask).map (·.id) = listed.map (·.id) := by
  have ids := congrArg (List.map (·.1)) (h.planOf_listed sub he)
  simpa [Store.planOf, TaskRow.ofTask, Function.comp_def] using ids.symm

theorem written (h : Coherent s jobId store w) (i : Nat) : Written (logOf i w.history) := by
  intro id update e he
  obtain ⟨before, after, -, hg⟩ := h.gives (mem_logOf.1 he)
  cases hg

/-- At any point of a history a worker has done to the tasks what its log up to there says. -/
theorem working (h : Coherent s jobId store w) (sub : store.Submitted jobId tasks) {i : Nat}
    {rest : ServiceScript (Except ServiceError JobStatus)} (hi : w.calls[i]? = some ⟨.work, rest⟩)
    {before after : List Entry} (heq : w.history = before ++ after) :
    ∃ left : ServiceScript (Except ServiceError JobStatus),
      Working jobId (logOf i before) left.isDone ∧ (after = [] → left = rest) := by
  have follows := h.follows i _ hi
  have hsub : ∀ e ∈ logOf i before, e ∈ logOf i w.history := fun e he => by
    rw [heq, logOf_append]
    exact List.mem_append_left _ he
  have ready (listed : List Task)
      (he : ⟨.store (.listTasks jobId), .ok listed⟩ ∈ logOf i before) : Store.Ready listed :=
    sub.ready (h.planOf_listed sub (hsub _ he))
  obtain ⟨left, first, last⟩ := Follows.of_append (by rwa [heq, logOf_append] at follows)
  refine ⟨left, follows_work_effects first ready ((h.written i).of_subset hsub), ?_⟩
  rintro rfl
  cases last
  rfl

theorem mem_effects {h : List Entry} {op : StoreOp} :
    op ∈ effects (h.map (·.event)) ↔ ∃ x ∈ h, effectOf? x.event = some op := by
  simp [effects, List.mem_filterMap]

/-- Tasks are written into by calls that canceled the job, and by workers that run it. -/
theorem writer (h : Coherent s jobId store w) (sub : store.Submitted jobId tasks) {x : Entry}
    (hx : x ∈ w.history) {op : StoreOp} (hop : effectOf? x.event = some op) :
    (op = .cancelPending jobId ∧ (.canceled, true) ∈ changes jobId (logOf x.caller w.history)) ∨
      ∃ rest, w.calls[x.caller]? = some ⟨.work, rest⟩ ∧
        (.running, true) ∈ changes jobId (logOf x.caller w.history) := by
  obtain ⟨⟨call, rest⟩, ho, -⟩ := h.asked hx
  have follows := h.follows _ _ ho
  have hmem : op ∈ effects (logOf x.caller w.history) :=
    List.mem_filterMap.2 ⟨x.event, mem_logOf.2 hx, hop⟩
  cases call with
  | start =>
      have hasked := asks_startProcessing.follows follows x.event (mem_logOf.2 hx)
      obtain ⟨heq, ⟨id, update, rfl⟩ | ⟨id, rfl⟩⟩ := effectOf?_eq_some hop <;> simp [heq] at hasked
  | cancel =>
      obtain ⟨heffects, hmade⟩ | ⟨quiet, -⟩ := follows_cancel_effects follows
      · rw [heffects] at hmem
        exact .inl ⟨List.mem_singleton.1 hmem, hmade⟩
      · rw [quiet] at hmem
        cases hmem
  | work =>
      obtain ⟨left, working, -⟩ := h.working sub ho (List.append_nil _).symm
      cases working with
      | idle untouched _ =>
          rw [untouched] at hmem
          cases hmem
      | engaged _ _ _ settling _ _ _ moved _ _ =>
          exact .inr ⟨rest, ho, by simp [moved]⟩

/-- A change that was made is not undone. -/
theorem past (h : Coherent s jobId store w) {i : Nat} {st : JobStatus}
    (hmade : (st, true) ∈ changes jobId (logOf i w.history)) : w.shared.Past jobId st.rank := by
  obtain ⟨e, he, hc⟩ := List.mem_filterMap.1 hmade
  obtain ⟨before, after, heq⟩ := List.append_of_mem (mem_logOf.1 he)
  have legal := h.legal
  rw [heq, Shared.legal_append] at legal
  rw [h.shared, heq, Shared.run_append, Shared.run_cons]
  exact (Shared.past_of_made legal.2.1 hc).run legal.2.2

/-- Of the final statuses one is made at most. -/
theorem final_unique (h : Coherent s jobId store w) {i j : Nat} {a b : JobStatus}
    (ha : (a, true) ∈ changes jobId (logOf i w.history)) (hfa : a.isFinal = true)
    (hb : (b, true) ∈ changes jobId (logOf j w.history)) (hfb : b.isFinal = true) : a = b := by
  obtain ⟨e, he, hc⟩ := List.mem_filterMap.1 ha
  obtain ⟨e', he', hc'⟩ := List.mem_filterMap.1 hb
  have hrank : a.rank = b.rank :=
    (JobStatus.isFinal_iff.1 hfa).trans (JobStatus.isFinal_iff.1 hfb).symm
  have heq := Shared.eq_of_made h.legal (mem_logOf.1 he) (mem_logOf.1 he') hc hc' hrank
  obtain rfl : e = e' := congrArg Entry.event heq
  cases hc.symm.trans hc'
  rfl

/-- A status other than the first was made by a caller. -/
theorem made_of_status (h : Coherent s jobId store w) (sub : store.Submitted jobId tasks)
    {st : JobStatus} (hst : w.status jobId = some st.name) (hne : st ≠ .created) :
    ∃ x ∈ w.history, (st, true) ∈ changes jobId (logOf x.caller w.history) := by
  obtain ⟨row, hrow, hcreated, -⟩ := sub.created
  have hv : (Shared.initial store).status jobId = some JobStatus.created.name := by
    rw [Shared.status, Shared.initial, hrow, Option.map_some, hcreated]
  rw [State.status, h.shared] at hst
  obtain hsame | ⟨x, hx, st', hc, hst'⟩ := Shared.status_run h.legal hv
  · exact absurd (JobStatus.name_inj (Option.some.inj (hst.symm.trans hsame))) hne
  · obtain rfl := JobStatus.name_inj (Option.some.inj (hst.symm.trans hst'))
    exact ⟨x, hx, mem_changes hx hc⟩

/-- The tasks stand as the reports of one worker say. -/
theorem stands (h : Coherent s jobId store w) (sub : store.Submitted jobId tasks) {i : Nat}
    {listed : List Task} {events : List TaskEvent} {told : Option (Except EngineError Unit)}
    (he : ⟨.store (.listTasks jobId), .ok listed⟩ ∈ logOf i w.history)
    (reported : Engine.Reported listed events told) :
    Stands ((tasks.map .ofTask).map (Store.rowAfterAll (events.map write))) told :=
  Stands.of_reported reported (h.ids_listed sub he) sub.nodup_ids sub.untouched

/-! ### What stands in the store -/

/-- Before the job runs its tasks are as they were submitted. -/
theorem created_of_early (h : Coherent s jobId store w) (sub : store.Submitted jobId tasks)
    {st : JobStatus} (hst : w.status jobId = some st.name) (early : st.rank < 2) :
    ∀ row ∈ w.shared.store.taskRows jobId, row.status = TaskStatus.created.name := by
  have quiet : effects (w.history.map (·.event)) = [] := by
    refine List.eq_nil_iff_forall_not_mem.2 fun op hop => ?_
    obtain ⟨x, hx, hop⟩ := mem_effects.1 hop
    have hpast : w.shared.Past jobId 2 := by
      obtain ⟨-, hmade⟩ | ⟨rest, -, hmade⟩ := h.writer sub hx hop
      · obtain ⟨st', hst', hle⟩ := h.past hmade
        exact ⟨st', hst', Nat.le_of_succ_le hle⟩
      · exact h.past hmade
    obtain ⟨st', hst', hle⟩ := hpast
    obtain rfl := JobStatus.name_inj (Option.some.inj (hst.symm.trans hst'))
    omega
  intro row hrow
  rw [h.rows sub, quiet] at hrow
  obtain ⟨row', hrow', rfl⟩ := List.mem_map.1 hrow
  exact sub.untouched row' hrow'

/-- When the job was not canceled, only the worker that made it run writes into its tasks. -/
theorem effects_of_worker (h : Coherent s jobId store w) (sub : store.Submitted jobId tasks)
    {i : Nat} {before after : List Entry} (heq : w.history = before ++ after)
    (hmade : (.running, true) ∈ changes jobId (logOf i w.history))
    (hnot : ∀ op ∈ effects (before.map (·.event)), op = .cancelPending jobId →
      ∀ j, (.canceled, true) ∉ changes jobId (logOf j w.history)) :
    effects (before.map (·.event)) = effects (logOf i before) := by
  refine filterMap_logOf fun x hx op hop => ?_
  obtain ⟨heq', hcanceled⟩ | ⟨rest, -, hrun⟩ := h.writer sub (heq ▸ List.mem_append_left _ hx) hop
  · exact absurd hcanceled (hnot op (mem_effects.2 ⟨x, hx, hop⟩) heq' _)
  · exact h.made_unique hrun hmade

/-- A worker that made a final status had its tasks stand as that says. -/
theorem engaged (h : Coherent s jobId store w) (sub : store.Submitted jobId tasks) {i : Nat}
    {rest : ServiceScript (Except ServiceError JobStatus)} (hi : w.calls[i]? = some ⟨.work, rest⟩)
    {st : JobStatus} (hmade : (st, true) ∈ changes jobId (logOf i w.history))
    (hf : st.isFinal = true) :
    ∃ (result : Except EngineError (List TaskOutcome)) (events : List TaskEvent)
      (settling : List ServiceEvent),
      Stands ((tasks.map .ofTask).map (Store.rowAfterAll (events.map write)))
        (some (result.map fun _ => ())) ∧
      effects (logOf i w.history) = events.map write ++ effects settling ∧
      Settling jobId result settling rest.isDone ∧
      (.running, true) ∈ changes jobId (logOf i w.history) ∧
      (st, true) ∈ changes jobId settling ∧ ∀ e ∈ settling, e ∈ logOf i w.history := by
  obtain ⟨left, working, hleft⟩ := h.working sub hi (List.append_nil _).symm
  obtain rfl := hleft rfl
  cases working with
  | idle _ calm =>
      obtain rfl := calm _ hmade
      cases hf
  | engaged listed events told settling he reported wrote moved within ended =>
      have hst : (st, true) ∈ changes jobId settling := by
        rw [moved] at hmade
        obtain heq | hmem := List.mem_cons.1 hmade
        · cases heq
          cases hf
        · exact hmem
      obtain rfl | ⟨result, rfl, settles⟩ := ended
      · cases hst
      · exact ⟨result, events, settling, h.stands sub he reported, wrote, settles,
          by simp [moved], hst, within⟩

theorem maker (h : Coherent s jobId store w) {i : Nat} {st : JobStatus}
    (hmade : (st, true) ∈ changes jobId (logOf i w.history)) :
    ∃ o, w.calls[i]? = some o ∧ st ∈ o.call.targets := by
  obtain ⟨e, he, hc⟩ := List.mem_filterMap.1 hmade
  obtain ⟨error, rfl⟩ := changeOf?_eq_some hc
  obtain ⟨o, ho, hasks⟩ := h.asked (mem_logOf.1 he)
  exact ⟨o, ho, hasks.2⟩

/-- A worker that ended the job without a cancellation was the only one to write into its tasks. -/
theorem ended_by_worker (h : Coherent s jobId store w) (sub : store.Submitted jobId tasks)
    {st : JobStatus} (hst : w.status jobId = some st.name) (hf : st.isFinal = true)
    (hne : st ≠ .canceled) :
    ∃ (i : Nat) (rest : ServiceScript (Except ServiceError JobStatus))
      (result : Except EngineError (List TaskOutcome)) (events : List TaskEvent)
      (settling : List ServiceEvent), w.calls[i]? = some ⟨.work, rest⟩ ∧
      (.running, true) ∈ changes jobId (logOf i w.history) ∧
      Stands ((tasks.map .ofTask).map (Store.rowAfterAll (events.map write)))
        (some (result.map fun _ => ())) ∧
      w.shared.store.taskRows jobId = ((tasks.map .ofTask).map
        (Store.rowAfterAll (events.map write))).map (Store.rowAfterAll (effects settling)) ∧
      Settling jobId result settling rest.isDone ∧ changes jobId settling ≠ [] ∧
      ∃ text, ⟨.store (.transition jobId st text), .ok true⟩ ∈ logOf i w.history ∧
        (st, text) = verdict result := by
  have hinitial : st ≠ .created := by
    rintro rfl
    cases hf
  obtain ⟨x, -, hmade⟩ := h.made_of_status sub hst hinitial
  obtain ⟨⟨call, rest⟩, hi, htarget⟩ := h.maker hmade
  cases call with
  | start =>
      obtain rfl := List.mem_singleton.1 htarget
      cases hf
  | cancel => exact absurd (List.mem_singleton.1 htarget) hne
  | work =>
      obtain ⟨result, events, settling, stands, wrote, settles, hrunning, hst', within⟩ :=
        h.engaged sub hi hmade hf
      have uncanceled (j : Nat) : (.canceled, true) ∉ changes jobId (logOf j w.history) :=
        fun hcanceled => hne (h.final_unique hmade hf hcanceled rfl)
      have hrows := h.rows sub
      rw [h.effects_of_worker sub (List.append_nil _).symm hrunning
        fun _ _ _ => uncanceled, wrote] at hrows
      obtain ⟨e, he, hc⟩ := List.mem_filterMap.1 hst'
      obtain ⟨text, rfl⟩ := changeOf?_eq_some hc
      refine ⟨x.caller, rest, result, events, settling, hi, hrunning, stands, ?_, settles,
        List.ne_nil_of_mem hst', text, within _ he, settles.moves st text _ he⟩
      rw [hrows, Store.map_rowAfterAll_append]

theorem finished_of_finished (h : Coherent s jobId store w) (sub : store.Submitted jobId tasks)
    (hst : w.status jobId = some JobStatus.finished.name) :
    ∀ row ∈ w.shared.store.taskRows jobId, row.status = TaskStatus.finished.name := by
  obtain ⟨i, rest, result, events, settling, -, -, stands, hrows, settles, -, text, -, hverdict⟩ :=
    h.ended_by_worker sub hst rfl (by simp)
  cases result with
  | error error =>
      rw [verdict] at hverdict
      split at hverdict <;> cases hverdict
  | ok outcomes =>
      rw [hrows, settles.keeps outcomes rfl]
      exact List.forall_mem_map.2 stands.all_finished

/-- The job always has a row, which explains itself. -/
theorem explained (h : Coherent s jobId store w) (sub : store.Submitted jobId tasks)
    {before after : List Entry} (heq : w.history = before ++ after) :
    ∃ row, ((Shared.initial store).run before).store.jobs.get? jobId = some row ∧
      row.Explained := by
  have legal := h.legal
  rw [heq, Shared.legal_append] at legal
  obtain ⟨row, hrow, hcreated, hnone⟩ := sub.created
  refine Shared.explained_run legal.1 (fun x hx => ?_) hrow ?_
  · have hmem : x ∈ w.history := heq ▸ List.mem_append_left _ hx
    obtain ⟨⟨call, rest⟩, ho, -⟩ := h.asked hmem
    exact call.tells.follows (h.follows _ _ ho) x.event (mem_logOf.2 hmem)
  · rw [JobRow.Explained, hnone, hcreated]
    simp [JobStatus.name]

/-- The job keeps the text with which it came to its final status. -/
theorem error_of_made (h : Coherent s jobId store w) (sub : store.Submitted jobId tasks) {i : Nat}
    {st : JobStatus} {text : Option String}
    (he : ⟨.store (.transition jobId st text), .ok true⟩ ∈ logOf i w.history)
    (hf : st.isFinal = true) :
    ∃ row, w.shared.store.jobs.get? jobId = some row ∧ row.error = text := by
  obtain ⟨before, after, heq⟩ := List.append_of_mem (mem_logOf.1 he)
  obtain ⟨row, hrow, explained⟩ := h.explained sub heq
  have legal := h.legal
  rw [heq, Shared.legal_append] at legal
  obtain ⟨-, made, later⟩ := legal
  have told : text.isSome = true ↔ st = .error := by
    obtain ⟨⟨call, rest⟩, ho, -⟩ := h.asked (mem_logOf.1 he)
    exact call.tells.follows (h.follows _ _ ho) _ he st text rfl
  have hmade : true = (((Shared.initial store).run before).store.transition jobId st text).1 :=
    Except.ok.inj made
  obtain ⟨row', hrow', hadm, ht⟩ | ⟨-, ht⟩ :=
    ((Shared.initial store).run before).store.transition_cases jobId st text
  · obtain rfl : row' = row := Option.some.inj (hrow'.symm.trans hrow)
    obtain ⟨unfailed, -⟩ := explained.moved hadm told
    have moved : (((Shared.initial store).run before).after
        (.store (.transition jobId st text))).store.jobs.get? jobId =
          some (Store.moved row' st text) := by
      rw [Shared.store_after_transition, ht, Dict.get?_insert, if_pos rfl]
    refine ⟨Store.moved row' st text, ?_, ?_⟩
    · rw [h.shared, heq, Shared.run_append, Shared.run_cons]
      exact Shared.row_of_final later moved rfl hf
    · rw [Store.moved, unfailed, Option.or_none]
  · rw [ht] at hmade
    cases hmade

theorem ended_of_error (h : Coherent s jobId store w) (sub : store.Submitted jobId tasks)
    (hst : w.status jobId = some JobStatus.error.name) (settled : w.Settled jobId) :
    ∃ failed row, Ended (w.shared.store.taskRows jobId) [failed] ∧
      w.shared.store.jobs.get? jobId = some row ∧ row.error = failed.error := by
  obtain ⟨i, rest, result, events, settling, hi, hrunning, stands, hrows, settles, hne, text, he,
    hverdict⟩ := h.ended_by_worker sub hst rfl (by simp)
  obtain ⟨row, hrow, htext⟩ := h.error_of_made sub he rfl
  cases result with
  | ok outcomes => cases hverdict
  | error error =>
      have failed : error.isCancelled = false ∧ text = some error.message := by
        rw [verdict] at hverdict
        split at hverdict
        · cases hverdict
        · rename_i hc
          exact ⟨by simpa using hc, (Prod.mk.inj hverdict).2⟩
      obtain ⟨hc, rfl⟩ := failed
      have hcancels := settles.ends error rfl (settled i _ hi (.inr hrunning)) hne
      rw [hcancels] at hrows
      obtain ⟨row', hmem, hended, htext'⟩ := stands.ended_of_failed hc fun row hrow =>
        (Store.status_cancelPending (sub.jobId_of_mem hrow)).1
      refine ⟨_, row, hrows ▸ hended, hrow, ?_⟩
      rw [htext, (Store.status_cancelPending (sub.jobId_of_mem hmem)).2.2, htext']

/-- After what is left was canceled, no task is pending. -/
theorem not_pending (h : Coherent s jobId store w) (sub : store.Submitted jobId tasks)
    (hop : .cancelPending jobId ∈ effects (w.history.map (·.event))) :
    ∀ row ∈ w.shared.store.taskRows jobId, row.isPending = false := by
  obtain ⟨first, last, heq⟩ := List.append_of_mem hop
  rw [h.rows sub, heq]
  refine List.forall_mem_map.2 fun row hrow => ?_
  exact (Store.status_of_cancelPending first last (Store.jobId_of_mem (sub.stored ▸ hrow))).2

/-- Until what is left is canceled, the tasks stand as the reports of a worker say. -/
theorem stands_before (h : Coherent s jobId store w) (sub : store.Submitted jobId tasks)
    {before after : List Entry} (heq : w.history = before ++ after)
    (hnot : .cancelPending jobId ∉ effects (before.map (·.event))) :
    ∃ told, Stands ((tasks.map .ofTask).map
      (Store.rowAfterAll (effects (before.map (·.event))))) told := by
  have waiting {ops : List StoreOp} (hnil : ops = []) :
      ∃ told, Stands ((tasks.map .ofTask).map (Store.rowAfterAll ops)) told := by
    rw [hnil]
    refine ⟨none, .waiting ?_⟩
    have same : (tasks.map TaskRow.ofTask).map (Store.rowAfterAll []) = tasks.map .ofTask :=
      List.map_id _
    rw [same]
    exact sub.untouched
  by_cases hquiet : effects (before.map (·.event)) = []
  · exact waiting hquiet
  obtain ⟨op, hop⟩ := List.exists_mem_of_ne_nil _ hquiet
  obtain ⟨x, hx, hxop⟩ := mem_effects.1 hop
  obtain ⟨rfl, -⟩ | ⟨rest, hi, hrun⟩ := h.writer sub (heq ▸ List.mem_append_left _ hx) hxop
  · exact absurd hop hnot
  have heffects := h.effects_of_worker sub heq hrun fun op hop hcancel =>
    absurd (hcancel ▸ hop) hnot
  obtain ⟨left, working, -⟩ := h.working sub hi heq
  cases working with
  | idle untouched _ => exact waiting (heffects.trans untouched)
  | engaged listed events told settling he reported wrote _ _ ended =>
      have unsettled : effects settling = [] := by
        obtain rfl | ⟨result, -, settles⟩ := ended
        · rfl
        obtain hnil | hcancels := settles.cancels
        · exact hnil
        · refine absurd ?_ hnot
          simp [heffects, wrote, hcancels]
      rw [heffects, wrote, unsettled, List.append_nil]
      have listed : ⟨.store (.listTasks jobId), .ok listed⟩ ∈ logOf x.caller w.history := by
        rw [heq, logOf_append]
        exact List.mem_append_left _ he
      exact ⟨told, h.stands sub listed reported⟩

theorem ended_of_cancelPending (h : Coherent s jobId store w) (sub : store.Submitted jobId tasks)
    (hop : .cancelPending jobId ∈ effects (w.history.map (·.event))) :
    ∃ failed, failed.length ≤ 1 ∧ Ended (w.shared.store.taskRows jobId) failed := by
  obtain ⟨first, last, heq, hfirst⟩ := List.eq_append_cons_of_mem hop
  obtain ⟨before', after', hsplit, hbefore, -⟩ := List.filterMap_eq_append_iff.1 heq
  obtain ⟨before, after, hhistory, rfl, rfl⟩ := List.map_eq_append_iff.1 hsplit
  obtain rfl : effects (before.map (·.event)) = first := hbefore
  obtain ⟨told, stands⟩ := h.stands_before sub hhistory hfirst
  rw [h.rows sub, heq, Store.map_rowAfterAll_append]
  refine stands.ended fun row hrow => ?_
  exact (Store.status_of_cancelPending [] last (sub.jobId_of_mem hrow)).1

theorem mem_effects_of_logOf {i : Nat} {h : List Entry} {op : StoreOp}
    (hop : op ∈ effects (logOf i h)) : op ∈ effects (h.map (·.event)) := by
  obtain ⟨e, he, heq⟩ := List.mem_filterMap.1 hop
  exact mem_effects.2 ⟨_, mem_logOf.1 he, heq⟩

theorem ended_of_canceled (h : Coherent s jobId store w) (sub : store.Submitted jobId tasks)
    (hst : w.status jobId = some JobStatus.canceled.name) (settled : w.Settled jobId) :
    ∃ failed, failed.length ≤ 1 ∧ Ended (w.shared.store.taskRows jobId) failed := by
  refine h.ended_of_cancelPending sub ?_
  obtain ⟨x, -, hmade⟩ := h.made_of_status sub hst (by simp)
  refine mem_effects_of_logOf (i := x.caller) ?_
  obtain ⟨⟨call, rest⟩, hi, htarget⟩ := h.maker hmade
  cases call with
  | start => simp [Call.targets] at htarget
  | cancel =>
      obtain ⟨heffects, -⟩ | ⟨-, -, unmade⟩ := follows_cancel_effects (h.follows _ _ hi)
      · simp [heffects]
      · exact absurd hmade (unmade (settled _ _ hi (.inl rfl)))
  | work =>
      obtain ⟨result, events, settling, -, wrote, settles, hrunning, hst', -⟩ :=
        h.engaged sub hi hmade rfl
      obtain ⟨e, he, hc⟩ := List.mem_filterMap.1 hst'
      obtain ⟨text, rfl⟩ := changeOf?_eq_some hc
      cases result with
      | ok outcomes => cases settles.moves _ _ _ he
      | error error =>
          have hends := settles.ends error rfl (settled _ _ hi (.inr hrunning))
            (List.ne_nil_of_mem hst')
          simp [wrote, hends]

theorem cancelPending_of_canceled (h : Coherent s jobId store w) {i : Nat}
    (hi : w.result? i .cancel = some (.ok ())) :
    .cancelPending jobId ∈ effects (w.history.map (·.event)) := by
  refine mem_effects_of_logOf (i := i) ?_
  obtain ⟨heffects, -⟩ | ⟨-, hne, -⟩ :=
    follows_cancel_effects (h.follows i _ (State.result?_eq_some.1 hi))
  · simp [heffects]
  · exact absurd rfl hne

end Service.Coherent

namespace Service

variable {s : Service} {jobId : String} {store : Store} {w w' : State}

theorem Step.history (h : Step s jobId w w') : ∃ later, w'.history = w.history ++ later := by
  cases h with
  | call c => exact ⟨[], (List.append_nil _).symm⟩
  | ask hi hg => exact ⟨_, rfl⟩

theorem Reachable.steps (h : Reachable s jobId store w)
    (hs : Relation.ReflTransGen (Step s jobId) w w') :
    Reachable s jobId store w' ∧ ∃ later, w'.history = w.history ++ later := by
  induction hs with
  | refl => exact ⟨h, [], (List.append_nil _).symm⟩
  | tail _ step ih =>
      obtain ⟨reachable, later, heq⟩ := ih
      obtain ⟨last, heq'⟩ := step.history
      exact ⟨reachable.step step, later ++ last, by rw [heq', heq, List.append_assoc]⟩

/-- The tasks of a submitted job stand in the order of their numbers, and agree with the job. They
are new until the job runs, and finished when it is. When the calls that change them have returned,
a failed job has finished tasks, the one whose error it has, and canceled ones; a canceled job has
finished tasks, at most one that failed, and canceled ones. A job has an error just if it failed.
From the moment that a cancellation succeeds, no task is pending. -/
theorem statuses_agree {userId : String} {request : Json} {log : List ServiceEvent} {job : Job}
    (sound : store.Sound) (submitted : (s.submit userId request).run.Ran log (.ok job))
    (legal : (Shared.initial store).Legal (log.map (Entry.mk 0)))
    (h : Reachable s job.id ((Shared.initial store).run (log.map (Entry.mk 0))).store w) :
    ∃ row, w.shared.store.jobs.get? job.id = some row ∧
      (∃ n, (w.shared.store.taskRows job.id).map (·.seqNum) =
        (List.range (n + 1)).map fun k : Nat => .integer k) ∧
      (row.status = JobStatus.created.name ∨ row.status = JobStatus.queued.name →
        ∀ task ∈ w.shared.store.taskRows job.id, task.status = TaskStatus.created.name) ∧
      (row.status = JobStatus.finished.name →
        ∀ task ∈ w.shared.store.taskRows job.id, task.status = TaskStatus.finished.name) ∧
      (w.Settled job.id → row.status = JobStatus.error.name →
        ∃ failed, Ended (w.shared.store.taskRows job.id) [failed] ∧ row.error = failed.error) ∧
      (w.Settled job.id → row.status = JobStatus.canceled.name →
        ∃ failed, failed.length ≤ 1 ∧ Ended (w.shared.store.taskRows job.id) failed) ∧
      (row.error.isSome = true ↔ row.status = JobStatus.error.name) ∧
      ∀ i, w.result? i .cancel = some (.ok ()) → ∀ w',
        Relation.ReflTransGen (Step s job.id) w w' →
          ∀ task ∈ w'.shared.store.taskRows job.id, task.isPending = false := by
  obtain ⟨tasks, sub⟩ := Store.submitted sound submitted legal
  have coherent := h.coherent
  obtain ⟨row, hrow, explained⟩ := coherent.explained sub (List.append_nil _).symm
  rw [← coherent.shared] at hrow
  have status {st : JobStatus} (hst : row.status = st.name) : w.status job.id = some st.name := by
    rw [State.status, Shared.status, hrow, Option.map_some, hst]
  refine ⟨row, hrow, coherent.numbered sub, ?_, ?_, ?_, ?_, explained, ?_⟩
  · intro hearly
    obtain hst | hst := hearly
    · exact coherent.created_of_early sub (status hst) (by decide)
    · exact coherent.created_of_early sub (status hst) (by decide)
  · exact fun hst => coherent.finished_of_finished sub (status hst)
  · intro hs hst
    obtain ⟨failed, row', hended, hrow', htext⟩ :=
      coherent.ended_of_error sub (status hst) hs
    obtain rfl : row = row' := Option.some.inj (hrow.symm.trans hrow')
    exact ⟨failed, hended, htext⟩
  · exact fun hs hst => coherent.ended_of_canceled sub (status hst) hs
  · intro i hi w' hsteps
    obtain ⟨reachable, later, heq⟩ := h.steps hsteps
    refine reachable.coherent.not_pending sub ?_
    rw [heq, List.map_append, effects_append]
    exact List.mem_append_left _ (coherent.cancelPending_of_canceled hi)

/-- Images for all that the sample graph needs. -/
def sampleCatalog : ImageCatalog :=
  ["extract", "convert"].foldl (fun c id => c.withProcess id ⟨⟨"uri", "ref", none⟩, none⟩)
    (.ofResources .initial)

def graphService : Service := ⟨⟨"ns", sampleCatalog, .ofCluster .initial⟩, Node.sampleRegistries⟩

def sampleRequest : Json := .mk [("process_graph", .mk [("product_id", .string "p")])]

/-- A submission to an empty store. -/
def sampleSubmission : List ServiceEvent × Except ServiceError Job :=
  (Shared.initial .empty).serve 0 (graphService.submit "u" sampleRequest).run

def sampleStored : Store :=
  ((Shared.initial .empty).run (sampleSubmission.1.map (Entry.mk 0))).store

theorem accepted_sample : ∃ job, sampleSubmission.2 = .ok job ∧ job.id = "0" ∧
    (graphService.submit "u" sampleRequest).run.Ran sampleSubmission.1 (.ok job) ∧
    (Shared.initial .empty).Legal (sampleSubmission.1.map (Entry.mk 0)) := by
  have hid : sampleSubmission.2.toOption.map (·.id) = some "0" := by decide +kernel
  obtain ⟨ran, legal⟩ :=
    (Shared.initial .empty).ran_serve 0 (graphService.submit "u" sampleRequest).run
  cases hjob : sampleSubmission.2 with
  | error e =>
      rw [hjob] at hid
      cases hid
  | ok job =>
      rw [hjob] at hid
      exact ⟨job, rfl, Option.some.inj hid, hjob ▸ ran, legal⟩

/-- What calls about the submitted job come to. -/
def playSubmitted (moves : List Move) : State :=
  (State.initial sampleStored).play graphService "0" (.error (.transport "")) moves

theorem statuses_agree_sample :
    ∃ (job : Job) (w : State) (row : JobRow) (failed : List TaskRow),
      (graphService.submit "u" sampleRequest).run.Ran sampleSubmission.1 (.ok job) ∧
      Reachable graphService job.id sampleStored w ∧ w.result? 1 .cancel = some (.ok ()) ∧
      w.shared.store.jobs.get? job.id = some row ∧ row.status = JobStatus.canceled.name ∧
      row.error = none ∧ failed.length ≤ 1 ∧ Ended (w.shared.store.taskRows job.id) failed ∧
      ∀ task ∈ w.shared.store.taskRows job.id, task.isPending = false := by
  let w := playSubmitted [.call .start, .ask 0, .ask 0, .ask 0, .call .cancel, .ask 1, .ask 1,
    .ask 1]
  obtain ⟨job, -, hid, submitted, legal⟩ := accepted_sample
  have reachable : Reachable graphService job.id sampleStored w :=
    hid.symm ▸ Reachable.initial.play _ _
  have canceled : w.result? 1 .cancel = some (.ok ()) := by decide +kernel
  have settled : w.Settled job.id := by
    have done : w.calls.all (·.rest.isDone) = true := by decide +kernel
    exact fun i o ho _ => List.all_eq_true.1 done o (List.mem_of_getElem? ho)
  have status : w.status "0" = some JobStatus.canceled.name := by decide +kernel
  obtain ⟨row, hrow, -, -, -, -, ended, explained, quiet⟩ :=
    statuses_agree Store.sound_empty submitted legal reachable
  have hst : row.status = JobStatus.canceled.name := by
    rw [State.status, Shared.status, ← hid, hrow] at status
    exact Option.some.inj status
  obtain ⟨failed, hlength, hended⟩ := ended settled hst
  refine ⟨job, w, row, failed, submitted, reachable, canceled, hrow, hst, ?_, hlength, hended,
    quiet 1 canceled w .refl⟩
  by_contra hsome
  have herror := explained.1 (Option.isSome_iff_ne_none.2 hsome)
  exact absurd (JobStatus.name_inj (hst.symm.trans herror)) (by decide)

end Service
end ImageryJobs
