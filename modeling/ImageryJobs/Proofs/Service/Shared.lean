import ImageryJobs.Proofs.Members
import ImageryJobs.Proofs.Service.Calls
import ImageryJobs.Proofs.Store.Transitions
import ImageryJobs.Simulation.World

/-!
What the calls of the service share: a store, and a register of workers. Each question is one step
on it.
-/

namespace ImageryJobs

/-- A register of workers, with the number of tokens that it gave out and those that were
tripped. -/
structure Register where
  tokens : Dict String Token
  issued : Nat
  tripped : List Token

/-- Carries a look into the register out. -/
def RegisterOp.apply : (op : RegisterOp) → Register → op.Answer × Register
  | .assign jobId, r =>
      ((), { r with tokens := r.tokens.insert jobId r.issued, issued := r.issued + 1 })
  | .token jobId, r =>
      match r.tokens.get? jobId with
      | some t => (t, r)
      | none =>
          (r.issued, { r with tokens := r.tokens.insert jobId r.issued, issued := r.issued + 1 })
  | .remove jobId, r => ((), { r with tokens := r.tokens.erase jobId })
  | .trip jobId, r =>
      match r.tokens.get? jobId with
      | some t => ((), { r with tripped := t :: r.tripped })
      | none => ((), r)

/-- Every token on the register was given out by it. -/
def Register.Sound (r : Register) : Prop := ∀ jobId t, r.tokens.get? jobId = some t → t < r.issued

namespace RegisterOp

variable {r : Register} {op : RegisterOp} {jobId : String} {t : Token}

/-- Puts another token, or none, in place of a job's. -/
def Displaces (jobId : String) (op : RegisterOp) : Prop := op = .assign jobId ∨ op = .remove jobId

theorem sound_insert (h : r.Sound) (id : String) :
    Register.Sound ⟨r.tokens.insert id r.issued, r.issued + 1, r.tripped⟩ := by
  intro jobId t ht
  rw [Dict.get?_insert] at ht
  split at ht
  · cases ht
    exact Nat.lt_succ_self _
  · exact Nat.lt_succ_of_lt (h jobId t ht)

theorem sound_apply (h : r.Sound) (op : RegisterOp) : (op.apply r).2.Sound := by
  cases op with
  | assign id => exact sound_insert h id
  | token id =>
      rw [apply]
      split
      · exact h
      · exact sound_insert h id
  | remove id =>
      intro jobId t ht
      simp only [apply, Dict.get?_erase] at ht
      split at ht
      · cases ht
      · exact h jobId t ht
  | trip id =>
      rw [apply]
      split <;> exact h

theorem issued_le_apply (r : Register) (op : RegisterOp) : r.issued ≤ (op.apply r).2.issued := by
  cases op <;> simp only [apply]
  case token id => split <;> simp
  case trip id => split <;> simp
  all_goals simp

/-- A job keeps its token when it is not displaced. -/
theorem get?_apply_of_not_displaces (h : r.tokens.get? jobId = some t)
    (ho : ¬ op.Displaces jobId) : (op.apply r).2.tokens.get? jobId = some t := by
  cases op with
  | assign id =>
      have hne : jobId ≠ id := fun heq => ho (.inl (by rw [heq]))
      simp [apply, hne, h]
  | token id =>
      rw [apply]
      split
      · exact h
      · rename_i hid
        have hne : jobId ≠ id := by
          intro heq
          rw [← heq, h] at hid
          cases hid
        simp [hne, h]
  | remove id =>
      have hne : jobId ≠ id := fun heq => ho (.inr (by rw [heq]))
      simp [apply, hne, h]
  | trip id =>
      rw [apply]
      split <;> exact h

theorem get?_apply_of_displaces (ht : t < r.issued) (ho : op.Displaces jobId) :
    (op.apply r).2.tokens.get? jobId ≠ some t := by
  obtain rfl | rfl := ho
  · simp only [apply, Dict.get?_insert]
    simpa using Nat.ne_of_gt ht
  · simp [apply]

/-- A token that the job has not is not given to it again. -/
theorem get?_apply_ne (ht : t < r.issued) (h : r.tokens.get? jobId ≠ some t) (op : RegisterOp) :
    (op.apply r).2.tokens.get? jobId ≠ some t := by
  have fresh (id : String) : (r.tokens.insert id r.issued).get? jobId ≠ some t := by
    rw [Dict.get?_insert]
    split
    · simpa using Nat.ne_of_gt ht
    · exact h
  cases op with
  | assign id => exact fresh id
  | token id =>
      rw [apply]
      split
      · exact h
      · exact fresh id
  | remove id =>
      simp only [apply, Dict.get?_erase]
      split
      · simp
      · exact h
  | trip id =>
      rw [apply]
      split <;> exact h

theorem get?_apply_token (r : Register) (jobId : String) :
    ((token jobId).apply r).2.tokens.get? jobId = some ((token jobId).apply r).1 := by
  cases h : r.tokens.get? jobId <;> simp [apply, h]

theorem mem_tripped_apply :
    t ∈ (op.apply r).2.tripped ↔
      t ∈ r.tripped ∨ ∃ id, op = .trip id ∧ r.tokens.get? id = some t := by
  cases op with
  | assign id | remove id => simp [apply]
  | token id =>
      rw [apply]
      split <;> simp
  | trip id =>
      rw [apply]
      split
      · rename_i t' hid
        simp [hid, or_comm, eq_comm]
      · rename_i hid
        simp [hid]

end RegisterOp

/-- What all calls share. -/
structure Shared where
  store : Store
  workers : Register

namespace Shared

open Service (changeOf? changeOf?_eq_some)

/-- A store before any call, and no worker. -/
def initial (store : Store) : Shared := ⟨store, ⟨∅, 0, []⟩⟩

/-- What a question changes. -/
def after (s : Shared) : ServiceOp → Shared
  | .store op => { s with store := (op.apply s.store).2 }
  | .register op => { s with workers := (op.apply s.workers).2 }
  | .send _ | .pause _ _ | .freshId => s

/-- What a question may be answered. The cluster may answer anything. -/
def Gives (s : Shared) : (op : ServiceOp) → op.Answer → Prop
  | .store op, answer => answer = (op.apply s.store).1
  | .register op, answer => answer = (op.apply s.workers).1
  | .pause token _, answer => answer = decide (token ∈ s.workers.tripped)
  | .send _, _ | .freshId, _ => True

/-- An answer that may be given, with what the cluster replies. -/
def answer (s : Shared) (reply : Reply) : (op : ServiceOp) → op.Answer
  | .store op => (op.apply s.store).1
  | .register op => (op.apply s.workers).1
  | .pause token _ => decide (token ∈ s.workers.tripped)
  | .send _ => reply
  | .freshId => ""

theorem gives_answer (s : Shared) (reply : Reply) (op : ServiceOp) :
    s.Gives op (s.answer reply op) := by
  cases op with
  | store _ | register _ | pause _ _ => rfl
  | send _ | freshId => trivial

theorem workers_after (s : Shared) (op : ServiceOp) :
    (∃ look, op = .register look ∧ (s.after op).workers = (look.apply s.workers).2) ∨
      (∀ look, op ≠ .register look) ∧ (s.after op).workers = s.workers := by
  cases op with
  | register look => exact .inl ⟨look, rfl, rfl⟩
  | send _ | pause _ _ | store _ | freshId => exact .inr ⟨by simp, rfl⟩

def status (s : Shared) (jobId : String) : Option String := (s.store.jobs.get? jobId).map (·.status)

variable {s : Shared} {jobId : String} {st : JobStatus} {v : String}

theorem store_after_transition {error : Option String} :
    (s.after (.store (.transition jobId st error))).store =
      (s.store.transition jobId st error).2 := rfl

/-- A change that was made led from a status that may come before. -/
theorem status_of_made {e : ServiceEvent} (hg : s.Gives e.op e.answer)
    (hc : changeOf? jobId e = some (st, true)) :
    (∃ p ∈ st.predecessors, s.status jobId = some p.name) ∧
      (s.after e.op).status jobId = some st.name := by
  obtain ⟨error, rfl⟩ := changeOf?_eq_some hc
  have hmade : true = (s.store.transition jobId st error).1 := Except.ok.inj hg
  obtain ⟨row, hrow, hadm, ht⟩ | ⟨-, ht⟩ := s.store.transition_cases jobId st error
  · obtain ⟨p, hp, hname⟩ := Store.admits_iff.1 hadm
    constructor
    · exact ⟨p, hp, by rw [status, hrow, hname]; rfl⟩
    · rw [status, store_after_transition, ht, Dict.get?_insert, if_pos rfl]
      rfl
  · rw [ht] at hmade
    cases hmade

/-- A refused change was not from a status that may come before. -/
theorem status_of_refused {e : ServiceEvent} (hg : s.Gives e.op e.answer)
    (hc : changeOf? jobId e = some (st, false)) :
    ∀ p ∈ st.predecessors, s.status jobId ≠ some p.name := by
  intro p hp hs
  obtain ⟨error, rfl⟩ := changeOf?_eq_some hc
  have hmade : false = (s.store.transition jobId st error).1 := Except.ok.inj hg
  obtain ⟨row, -, -, ht⟩ | ⟨hnot, -⟩ := s.store.transition_cases jobId st error
  · rw [ht] at hmade
    cases hmade
  · obtain ⟨row, hrow, hname⟩ := Option.map_eq_some_iff.1 hs
    exact hnot row hrow (Store.admits_iff.2 ⟨p, hp, hname.symm⟩)

/-- The row of a stored job stays unless a change of its status is made. -/
theorem row_after {e : ServiceEvent} {row : JobRow} (hg : s.Gives e.op e.answer)
    (hrow : s.store.jobs.get? jobId = some row) :
    (∃ st error, changeOf? jobId e = some (st, true) ∧
      e.op = .store (.transition jobId st error) ∧ Store.admits row st = true ∧
      (s.after e.op).store.jobs.get? jobId = some (Store.moved row st error)) ∨
      (s.after e.op).store.jobs.get? jobId = some row := by
  obtain ⟨op, answer⟩ := e
  cases op with
  | send _ | pause _ _ | register _ | freshId => exact .inr hrow
  | store op =>
      cases op with
      | getJob _ | listTasks _ | cancelPending _ | health => exact .inr hrow
      | updateTask taskId update =>
          refine .inr ?_
          change (s.store.updateTask taskId update).jobs.get? jobId = _
          rw [Store.updateTask_jobs]
          exact hrow
      | insert job tasks =>
          refine .inr ?_
          cases hi : s.store.insert job tasks with
          | error e => simpa [after, StoreOp.apply, hi] using hrow
          | ok t =>
              have hafter : (s.after (.store (.insert job tasks))).store = t := by
                simp [after, StoreOp.apply, hi]
              rw [hafter]
              exact Store.get?_jobs_insert hi hrow
      | transition id st error =>
          obtain ⟨row', hrow', hadm, ht⟩ | ⟨-, ht⟩ := s.store.transition_cases id st error
          · by_cases hid : id = jobId
            · subst hid
              have hmade : answer = .ok true := hg.trans (congrArg Except.ok (congrArg Prod.fst ht))
              obtain rfl : row' = row := Option.some.inj (hrow'.symm.trans hrow)
              refine .inl ⟨st, error, by rw [hmade, changeOf?, if_pos rfl], rfl, hadm, ?_⟩
              rw [store_after_transition, ht, Dict.get?_insert, if_pos rfl]
            · refine .inr ?_
              rw [store_after_transition, ht, Dict.get?_insert, if_neg (Ne.symm hid)]
              exact hrow
          · refine .inr ?_
            rw [store_after_transition, ht]
            exact hrow

theorem status_after {e : ServiceEvent} (hg : s.Gives e.op e.answer)
    (hv : s.status jobId = some v) :
    (∃ st, changeOf? jobId e = some (st, true)) ∨ (s.after e.op).status jobId = some v := by
  obtain ⟨row, hrow, rfl⟩ := Option.map_eq_some_iff.1 hv
  obtain ⟨st, error, hc, -⟩ | hsame := row_after hg hrow
  · exact .inl ⟨st, hc⟩
  · refine .inr ?_
    rw [status, hsame]
    rfl

theorem status_of_read {job : Job}
    (hg : s.Gives (.store (.getJob jobId)) (.ok (some job))) :
    s.status jobId = some job.status.name := by
  have hread : s.store.getJob jobId = .ok (some job) := hg.symm
  rw [Store.getJob] at hread
  split at hread
  · cases hread
  · rename_i row hrow
    cases hj : row.toJob with
    | error e =>
        rw [hj] at hread
        cases hread
    | ok job' =>
        rw [hj] at hread
        cases hread
        rw [status, hrow, JobRow.toJob_status hj]
        rfl

end Shared

namespace Simulation

def World.workers (w : World) : Register := ⟨w.register, w.tokens, w.tripped⟩

/-- The register of a scenario is looked into in the same way. -/
theorem registerOp_run (op : RegisterOp) (w : World) :
    ((Sim.registerOp op).run w).1 = (op.apply w.workers).1 ∧
      ((Sim.registerOp op).run w).2 = { w with
        register := (op.apply w.workers).2.tokens
        tokens := (op.apply w.workers).2.issued
        tripped := (op.apply w.workers).2.tripped } := by
  cases op with
  | assign jobId => exact ⟨rfl, rfl⟩
  | token jobId =>
      cases h : w.register.get? jobId with
      | none =>
          simp [Sim.registerOp, RegisterOp.apply, World.workers, h, Sim.freshToken]
          exact ⟨rfl, rfl⟩
      | some token =>
          simp [Sim.registerOp, RegisterOp.apply, World.workers, h]
          exact ⟨rfl, rfl⟩
  | remove jobId => exact ⟨rfl, rfl⟩
  | trip jobId =>
      cases h : w.register.get? jobId with
      | none =>
          simp [Sim.registerOp, RegisterOp.apply, World.workers, h]
          rfl
      | some token =>
          simp [Sim.registerOp, RegisterOp.apply, World.workers, h, Sim.trip]
          rfl

variable {w : World} {c : Connection} {store : Store}

theorem storeOp_run (op : StoreOp) (hopen : Sim.openedStore w = some (c, store))
    (hwrites : c.writes = true) :
    (Sim.storeOp op).run w =
      ((op.apply store).1,
        { w with databases := w.databases.insert c.key (op.apply store).2 }) := by
  simp [Sim.storeOp, hopen, hwrites]
  rfl

/-- In a scenario whose store is open, calls are answered as here, replies of the cluster aside. -/
theorem serviceOp_gives {act : Step → Sim Outcome} {op : ServiceOp} (hop : ∀ r, op ≠ .send r)
    (hopen : Sim.openedStore w = some (c, store)) (hwrites : c.writes = true) :
    (Shared.mk store w.workers).Gives op ((Sim.serviceOp act op).run w).1 ∧
      ∃ store', Sim.openedStore ((Sim.serviceOp act op).run w).2 = some (c, store') ∧
        (Shared.mk store w.workers).after op =
          ⟨store', ((Sim.serviceOp act op).run w).2.workers⟩ := by
  cases op with
  | send r => exact absurd rfl (hop r)
  | pause token span =>
      by_cases h : token ∈ w.tripped
      · have hrun : (Sim.pause token span).run w = (true, w) := by
          simp [Sim.pause, h]
          rfl
        rw [Sim.serviceOp, hrun]
        exact ⟨(decide_eq_true h).symm, store, hopen, rfl⟩
      · have hrun : (Sim.pause token span).run w = (false, { w with clock := w.clock + span }) := by
          simp [Sim.pause, h]
          rfl
        rw [Sim.serviceOp, hrun]
        exact ⟨(decide_eq_false h).symm, store, hopen, rfl⟩
  | store op =>
      rw [Sim.serviceOp, storeOp_run op hopen hwrites]
      refine ⟨rfl, (op.apply store).2, ?_, rfl⟩
      obtain ⟨c', hc, hstore⟩ := Option.bind_eq_some_iff.1 hopen
      obtain ⟨s, -, heq⟩ := Option.map_eq_some_iff.1 hstore
      obtain ⟨rfl, rfl⟩ := Prod.mk.inj heq
      simp [Sim.openedStore, hc]
  | register op =>
      obtain ⟨hanswer, hworld⟩ := registerOp_run op w
      rw [Sim.serviceOp]
      refine ⟨hanswer, store, ?_, ?_⟩
      · rw [hworld]
        exact hopen
      · rw [hworld]
        rfl
  | freshId => exact ⟨trivial, store, hopen, rfl⟩

end Simulation
end ImageryJobs
