import ImageryJobs.Proofs.Service.Recording

/-!
How the tasks of a job stand while they are worked off, and what becomes of them when what is left
is canceled.
-/

namespace ImageryJobs

open Engine (Reported)
open Service (write)
open Store (rowAfter rowAfterAll updated settledStatus)

/-- Tasks that no event has reached. -/
def Untouched (rows : List TaskRow) : Prop :=
  ∀ row ∈ rows, row.status = TaskStatus.created.name

/-- How tasks stand that run in this order, and what is known of the end: those before the one that
runs or failed are finished, and those after it are untouched. -/
inductive Stands : List TaskRow → Option (Except EngineError Unit) → Prop where
  | complete : Stands [] (some (.ok ()))
  | waiting {rows : List TaskRow} (untouched : Untouched rows) : Stands rows none
  | begun {row : TaskRow} {rest : List TaskRow} (status : row.status = TaskStatus.running.name)
      (untouched : Untouched rest) : Stands (row :: rest) none
  | canceled {row : TaskRow} {rest : List TaskRow} {error : EngineError}
      (cancelled : error.isCancelled = true) (status : row.status = TaskStatus.canceled.name)
      (untouched : Untouched rest) : Stands (row :: rest) (some (.error error))
  | failed {row : TaskRow} {rest : List TaskRow} {error : EngineError}
      (cancelled : error.isCancelled = false) (status : row.status = TaskStatus.error.name)
      (text : row.error = some error.message) (untouched : Untouched rest) :
      Stands (row :: rest) (some (.error error))
  | finished {row : TaskRow} {rest : List TaskRow} {told : Option (Except EngineError Unit)}
      (status : row.status = TaskStatus.finished.name) (h : Stands rest told) :
      Stands (row :: rest) told

namespace Stands

variable {rows : List TaskRow} {told : Option (Except EngineError Unit)} {row : TaskRow}

/-! ### From reports -/

theorem rowAfter_write (event : TaskEvent) (h : row.id = event.update.1) :
    rowAfter (write event) row = updated row event.update.2 := if_pos h

theorem rowAfterAll_write_of_ne {events : List TaskEvent}
    (h : ∀ event ∈ events, row.id ≠ event.update.1) : rowAfterAll (events.map write) row = row := by
  induction events with
  | nil => rfl
  | cons event events ih =>
      obtain ⟨hne, h⟩ := List.forall_mem_cons.1 h
      have same : rowAfter (write event) row = row := if_neg hne
      rw [List.map_cons, Store.rowAfterAll_cons, same]
      exact ih h

theorem status_updated {update : TaskUpdate} {st : TaskStatus} (h : row.isPending = true)
    (hst : update.status = some st) : (updated row update).status = st.name := by
  rw [updated, if_pos h, hst]
  rfl

theorem isPending_of_status {st : TaskStatus} (h : row.status = st.name) :
    row.isPending = st.isPending := by
  rw [TaskRow.isPending, h]
  cases st <;> decide

theorem status_started {task : Task} (hid : row.id = task.id)
    (hnew : row.status = TaskStatus.created.name) :
    (rowAfter (write (.started task)) row).status = TaskStatus.running.name := by
  rw [rowAfter_write (.started task) hid]
  exact status_updated (isPending_of_status hnew) rfl

theorem isPending_started {task : Task} (hid : row.id = task.id)
    (hnew : row.status = TaskStatus.created.name) :
    (rowAfter (write (.started task)) row).isPending = true :=
  isPending_of_status (status_started hid hnew)

/-- A task that failed, or was cancelled. -/
theorem of_failure {error : EngineError} {task : Task} {rest : List TaskRow}
    (hid : row.id = task.id) (hpending : row.isPending = true) (untouched : Untouched rest) :
    Stands (rowAfter (write (.failed task error)) row :: rest) (some (.error error)) := by
  rw [rowAfter_write (.failed task error) hid]
  cases hc : error.isCancelled with
  | true => exact .canceled hc (status_updated hpending (by simp [TaskEvent.update, hc])) untouched
  | false =>
      refine .failed hc (status_updated hpending (by simp [TaskEvent.update, hc])) ?_ untouched
      simp [updated, TaskEvent.update, hc]

theorem of_reported {tasks : List Task} {events : List TaskEvent} (h : Reported tasks events told)
    (ids : rows.map (·.id) = tasks.map (·.id)) (nodup : (rows.map (·.id)).Nodup)
    (untouched : Untouched rows) : Stands (rows.map (rowAfterAll (events.map write))) told := by
  have skips {row : TaskRow} {rest : List TaskRow} {task : Task} (events : List TaskEvent)
      (hid : row.id = task.id) (hnot : row.id ∉ rest.map (·.id))
      (hevents : ∀ event ∈ events, event.update.1 = task.id) :
      rest.map (rowAfterAll (events.map write)) = rest := by
    refine (List.map_congr_left fun other hother => ?_).trans (List.map_id rest)
    refine rowAfterAll_write_of_ne fun event hevent heq => hnot ?_
    rw [hid, ← hevents event hevent, ← heq]
    exact List.mem_map_of_mem hother
  induction h generalizing rows with
  | complete =>
      obtain rfl := List.map_eq_nil_iff.1 ids
      exact .complete
  | waiting task rest => exact .waiting ((List.map_id rows).symm ▸ untouched)
  | begun task rest =>
      obtain ⟨row, others, rfl, hid, ids⟩ := List.map_eq_cons_iff.1 ids
      obtain ⟨hnot, -⟩ := List.nodup_cons.1 nodup
      obtain ⟨hnew, untouched⟩ := List.forall_mem_cons.1 untouched
      rw [List.map_cons, skips _ hid hnot (by simp [TaskEvent.update])]
      refine .begun ?_ untouched
      exact status_started hid hnew
  | withdrawn task rest error =>
      obtain ⟨row, others, rfl, hid, ids⟩ := List.map_eq_cons_iff.1 ids
      obtain ⟨hnot, -⟩ := List.nodup_cons.1 nodup
      obtain ⟨hnew, untouched⟩ := List.forall_mem_cons.1 untouched
      rw [List.map_cons, skips _ hid hnot (by simp [TaskEvent.update])]
      exact of_failure hid (isPending_of_status hnew) untouched
  | failed task rest error =>
      obtain ⟨row, others, rfl, hid, ids⟩ := List.map_eq_cons_iff.1 ids
      obtain ⟨hnot, -⟩ := List.nodup_cons.1 nodup
      obtain ⟨hnew, untouched⟩ := List.forall_mem_cons.1 untouched
      rw [List.map_cons, skips _ hid hnot (by simp [TaskEvent.update])]
      exact of_failure ((Store.id_rowAfter _ row).trans hid) (isPending_started hid hnew) untouched
  | @finished task rest outcome events told h ih =>
      obtain ⟨row, others, rfl, hid, ids⟩ := List.map_eq_cons_iff.1 ids
      obtain ⟨hnot, nodup⟩ := List.nodup_cons.1 nodup
      obtain ⟨hnew, untouched⟩ := List.forall_mem_cons.1 untouched
      have hothers : others.map (rowAfterAll ((.started task :: .finished task outcome ::
          events).map write)) = others.map (rowAfterAll (events.map write)) := by
        have first := skips [.started task, .finished task outcome] hid hnot
          (by simp [TaskEvent.update])
        conv_rhs => rw [← first, List.map_map]
        rfl
      rw [List.map_cons, hothers]
      refine .finished ?_ (ih ids nodup untouched)
      have hdone : (rowAfter (write (.finished task outcome))
          (rowAfter (write (.started task)) row)).status = TaskStatus.finished.name := by
        rw [rowAfter_write (.finished task outcome) ((Store.id_rowAfter _ row).trans hid)]
        exact status_updated (isPending_started hid hnew) rfl
      exact (Store.status_rowAfterAll (isPending_of_status hdone) _).trans hdone

/-! ### What they come to -/

theorem all_finished (h : Stands rows (some (.ok ()))) :
    ∀ row ∈ rows, row.status = TaskStatus.finished.name := by
  generalize htold : some (Except.ok ()) = told at h
  induction h with
  | complete => exact List.forall_mem_nil _
  | waiting _ | begun _ _ | canceled _ _ _ | failed _ _ _ _ => cases htold
  | finished status _ ih => exact List.forall_mem_cons.2 ⟨status, ih htold⟩

end Stands

/-- Finished tasks, then some that failed, then canceled ones. -/
def Ended (rows failed : List TaskRow) : Prop :=
  ∃ first last, rows = first ++ failed ++ last ∧
    (∀ row ∈ first, row.status = TaskStatus.finished.name) ∧
    (∀ row ∈ failed, row.status = TaskStatus.error.name) ∧
    ∀ row ∈ last, row.status = TaskStatus.canceled.name

namespace Ended

variable {rows failed : List TaskRow} {row : TaskRow}

theorem cons (h : Ended rows failed) (hs : row.status = TaskStatus.finished.name) :
    Ended (row :: rows) failed := by
  obtain ⟨first, last, rfl, hfirst, hfailed, hlast⟩ := h
  exact ⟨row :: first, last, rfl, List.forall_mem_cons.2 ⟨hs, hfirst⟩, hfailed, hlast⟩

theorem of_canceled (h : ∀ row ∈ rows, row.status = TaskStatus.canceled.name) : Ended rows [] :=
  ⟨[], rows, rfl, List.forall_mem_nil _, List.forall_mem_nil _, h⟩

theorem of_failed (hs : row.status = TaskStatus.error.name)
    (h : ∀ row ∈ rows, row.status = TaskStatus.canceled.name) : Ended (row :: rows) [row] :=
  ⟨[], rows, rfl, List.forall_mem_nil _, List.forall_mem_singleton.2 hs, h⟩

end Ended

namespace Stands

variable {rows : List TaskRow} {told : Option (Except EngineError Unit)} {f : TaskRow → TaskRow}

theorem settledStatus_of_final {row : TaskRow} {st : TaskStatus} (h : row.status = st.name)
    (hst : st.isPending = false) : settledStatus row = st.name := by
  rw [settledStatus, isPending_of_status h, hst]
  exact h

theorem settledStatus_of_pending {row : TaskRow} {st : TaskStatus} (h : row.status = st.name)
    (hst : st.isPending = true) : settledStatus row = TaskStatus.canceled.name := by
  rw [settledStatus, isPending_of_status h, hst]
  rfl

theorem canceled_of_untouched (settles : ∀ row ∈ rows, (f row).status = settledStatus row)
    (untouched : Untouched rows) : ∀ row ∈ rows.map f, row.status = TaskStatus.canceled.name := by
  refine List.forall_mem_map.2 fun row hrow => ?_
  exact (settles row hrow).trans (settledStatus_of_pending (untouched row hrow) rfl)

/-- When what is left is canceled, one task at most has failed. -/
theorem ended (h : Stands rows told) (settles : ∀ row ∈ rows, (f row).status = settledStatus row) :
    ∃ failed, failed.length ≤ 1 ∧ Ended (rows.map f) failed := by
  induction h with
  | complete => exact ⟨[], Nat.zero_le 1, .of_canceled (List.forall_mem_nil _)⟩
  | waiting untouched =>
      exact ⟨[], Nat.zero_le 1, .of_canceled (canceled_of_untouched settles untouched)⟩
  | begun status untouched =>
      obtain ⟨hrow, settles⟩ := List.forall_mem_cons.1 settles
      refine ⟨[], Nat.zero_le 1, .of_canceled (List.forall_mem_cons.2 ⟨?_, ?_⟩)⟩
      · exact hrow.trans (settledStatus_of_pending status rfl)
      · exact canceled_of_untouched settles untouched
  | canceled _ status untouched =>
      obtain ⟨hrow, settles⟩ := List.forall_mem_cons.1 settles
      refine ⟨[], Nat.zero_le 1, .of_canceled (List.forall_mem_cons.2 ⟨?_, ?_⟩)⟩
      · exact hrow.trans (settledStatus_of_final status rfl)
      · exact canceled_of_untouched settles untouched
  | failed _ status _ untouched =>
      obtain ⟨hrow, settles⟩ := List.forall_mem_cons.1 settles
      exact ⟨[_], Nat.le_refl 1, .of_failed (hrow.trans (settledStatus_of_final status rfl))
        (canceled_of_untouched settles untouched)⟩
  | finished status _ ih =>
      obtain ⟨hrow, settles⟩ := List.forall_mem_cons.1 settles
      obtain ⟨failed, hlength, h⟩ := ih settles
      exact ⟨failed, hlength, h.cons (hrow.trans (settledStatus_of_final status rfl))⟩

/-- A run that failed did so at one task, which has the text of the failure. -/
theorem ended_of_failed {error : EngineError} (h : Stands rows (some (.error error)))
    (hc : error.isCancelled = false)
    (settles : ∀ row ∈ rows, (f row).status = settledStatus row) :
    ∃ row ∈ rows, Ended (rows.map f) [f row] ∧ row.error = some error.message := by
  generalize htold : some (Except.error error) = told at h
  induction h with
  | complete | waiting _ | begun _ _ => cases htold
  | canceled cancelled _ _ =>
      cases htold
      rw [hc] at cancelled
      cases cancelled
  | @failed row rest error' _ status text untouched =>
      cases htold
      obtain ⟨hrow, settles⟩ := List.forall_mem_cons.1 settles
      exact ⟨row, List.mem_cons_self, .of_failed (hrow.trans (settledStatus_of_final status rfl))
        (canceled_of_untouched settles untouched), text⟩
  | finished status _ ih =>
      obtain ⟨hrow, settles⟩ := List.forall_mem_cons.1 settles
      obtain ⟨failed, hmem, h, text⟩ := ih settles htold
      exact ⟨failed, List.mem_cons_of_mem _ hmem,
        h.cons (hrow.trans (settledStatus_of_final status rfl)), text⟩

end Stands
end ImageryJobs
