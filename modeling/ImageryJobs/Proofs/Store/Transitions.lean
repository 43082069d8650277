import ImageryJobs.Proofs.Store.Insertion
import ImageryJobs.Proofs.Store.Rows

/-!
What operations on a store do to the status of a job: a change leads from one status to a later
one, and nothing else moves a job.
-/

namespace ImageryJobs

namespace JobStatus

/-- How far a job with this status has come. -/
def rank : JobStatus → Nat
  | .created => 0
  | .queued => 1
  | .running => 2
  | .canceled | .finished | .error => 3

theorem rank_lt {p st : JobStatus} (h : p ∈ st.predecessors) : p.rank < st.rank := by
  cases st <;> simp [predecessors] at h
  case canceled => obtain rfl | rfl := h <;> decide
  all_goals subst h; decide

theorem rank_le (st : JobStatus) : st.rank ≤ 3 := by
  cases st <;> decide

theorem isFinal_iff {st : JobStatus} : st.isFinal = true ↔ st.rank = 3 := by
  cases st <;> decide

theorem running_mem_predecessors {st : JobStatus} (h : st.isFinal = true) :
    .running ∈ st.predecessors := by
  cases st <;> first | decide | cases h

end JobStatus

theorem JobRow.toJob_status {row : JobRow} {job : Job} (h : row.toJob = .ok job) :
    job.status.name = row.status := (toJob_eq_ok.1 h).status.symm

namespace Store

theorem updateTask_jobs (s : Store) (taskId : String) (update : TaskUpdate) :
    (s.updateTask taskId update).jobs = s.jobs := by
  rw [updateTask]
  split <;> rfl

theorem admits_iff {row : JobRow} {st : JobStatus} :
    admits row st = true ↔ ∃ p ∈ st.predecessors, p.name = row.status := by
  simp [admits]

/-- A change of status is made if the row admits it, and leaves the store alone otherwise. -/
theorem transition_cases (s : Store) (jobId : String) (st : JobStatus) (error : Option String) :
    (∃ row, s.jobs.get? jobId = some row ∧ admits row st = true ∧
      s.transition jobId st error =
        (true, { s with jobs := s.jobs.insert jobId (moved row st error) })) ∨
      (∀ row, s.jobs.get? jobId = some row → ¬ admits row st = true) ∧
        s.transition jobId st error = (false, s) := by
  rw [transition]
  cases hrow : s.jobs.get? jobId with
  | none => exact .inr ⟨nofun, rfl⟩
  | some row =>
      by_cases hadm : admits row st = true
      · exact .inl ⟨row, rfl, hadm, if_pos hadm⟩
      · refine .inr ⟨fun row' h => ?_, if_neg hadm⟩
        cases h
        exact hadm

end Store

end ImageryJobs
