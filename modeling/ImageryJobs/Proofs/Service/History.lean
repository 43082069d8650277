import ImageryJobs.Proofs.Service.Shared

/-!
Histories of what calls asked, and what follows from a history alone. A status is only ever moved
forward, and a token that was taken off the register is never put there again.
-/

namespace ImageryJobs

structure Entry where
  caller : Nat
  event : ServiceEvent

namespace Shared

/-- The shared state after a history. -/
def run (s : Shared) (h : List Entry) : Shared := h.foldl (fun s x => s.after x.event.op) s

/-- Every answer of a history was one that could be given. -/
def Legal (s : Shared) : List Entry → Prop
  | [] => True
  | x :: h => s.Gives x.event.op x.event.answer ∧ (s.after x.event.op).Legal h

@[simp] theorem run_nil (s : Shared) : s.run [] = s := rfl

@[simp] theorem run_cons (s : Shared) (x : Entry) (h : List Entry) :
    s.run (x :: h) = (s.after x.event.op).run h := rfl

@[simp] theorem run_append (s : Shared) (h h' : List Entry) :
    s.run (h ++ h') = (s.run h).run h' := List.foldl_append

theorem legal_append {s : Shared} {h h' : List Entry} :
    s.Legal (h ++ h') ↔ s.Legal h ∧ (s.run h).Legal h' := by
  induction h generalizing s with
  | nil => simp [Legal]
  | cons x h ih => simp [Legal, ih, and_assoc]

open Service (changeOf?)

variable {s : Shared} {h g : List Entry} {x y : Entry} {jobId v : String} {st a b : JobStatus}
  {t : Token}

/-! ### The status of a job -/

/-- The job has come at least as far as some status. -/
def Past (s : Shared) (jobId : String) (n : Nat) : Prop :=
  ∃ st : JobStatus, s.status jobId = some st.name ∧ n ≤ st.rank

theorem past_of_made {e : ServiceEvent} (hg : s.Gives e.op e.answer)
    (hc : changeOf? jobId e = some (st, true)) : (s.after e.op).Past jobId st.rank :=
  ⟨st, (status_of_made hg hc).2, Nat.le_refl _⟩

theorem Past.lt_rank {e : ServiceEvent} {n : Nat} (hp : s.Past jobId n)
    (hg : s.Gives e.op e.answer) (hc : changeOf? jobId e = some (st, true)) : n < st.rank := by
  obtain ⟨now, hnow, hn⟩ := hp
  obtain ⟨⟨p, hp, hs⟩, -⟩ := status_of_made hg hc
  have heq : p = now := JobStatus.name_inj (Option.some.inj (hs.symm.trans hnow))
  exact Nat.lt_of_le_of_lt hn (heq ▸ JobStatus.rank_lt hp)

theorem Past.after {e : ServiceEvent} {n : Nat} (hp : s.Past jobId n)
    (hg : s.Gives e.op e.answer) : (s.after e.op).Past jobId n := by
  obtain ⟨now, hnow, hn⟩ := hp
  obtain ⟨st, hc⟩ | hsame := status_after hg hnow
  · have hlt := Past.lt_rank ⟨now, hnow, hn⟩ hg hc
    exact ⟨st, (status_of_made hg hc).2, Nat.le_of_lt hlt⟩
  · exact ⟨now, hsame, hn⟩

theorem Past.lt_rank_of_mem {n : Nat} (hp : s.Past jobId n) (hl : s.Legal h) (hx : x ∈ h)
    (ha : changeOf? jobId x.event = some (a, true)) : n < a.rank := by
  induction h generalizing s with
  | nil => cases hx
  | cons y h ih =>
      cases hx with
      | head => exact hp.lt_rank hl.1 ha
      | tail _ hx => exact ih (hp.after hl.1) hl.2 hx

/-- Of two changes that were made, the later leads further. -/
theorem rank_lt_of_made (hl : s.Legal (h ++ g)) (hx : x ∈ h) (hy : y ∈ g)
    (ha : changeOf? jobId x.event = some (a, true))
    (hb : changeOf? jobId y.event = some (b, true)) :
    a.rank < b.rank := by
  induction h generalizing s with
  | nil => cases hx
  | cons z h ih =>
      cases hx with
      | head =>
          exact (past_of_made hl.1 ha).lt_rank_of_mem hl.2 (List.mem_append_right h hy) hb
      | tail _ hx => exact ih hl.2 hx

theorem eq_of_made (hl : s.Legal h) (hx : x ∈ h) (hy : y ∈ h)
    (ha : changeOf? jobId x.event = some (a, true)) (hb : changeOf? jobId y.event = some (b, true))
    (hr : a.rank = b.rank) : x = y := by
  obtain ⟨before, after, rfl⟩ := List.append_of_mem hx
  obtain hy | hy | hy := by simpa using hy
  · have := rank_lt_of_made hl hy (List.mem_cons_self ..) hb ha
    omega
  · exact hy.symm
  · rw [List.append_cons] at hl
    have := rank_lt_of_made hl (by simp) hy ha hb
    omega

/-- A status other than that at first was brought by a change. -/
theorem status_run (hl : s.Legal h) (hv : s.status jobId = some v) :
    (s.run h).status jobId = some v ∨
      ∃ x ∈ h, ∃ st, changeOf? jobId x.event = some (st, true) ∧
        (s.run h).status jobId = some st.name := by
  induction h generalizing s v with
  | nil => exact .inl hv
  | cons y h ih =>
      have later {w : String} (hw : (s.after y.event.op).status jobId = some w)
          (hmoved : w ≠ v → ∃ st, changeOf? jobId y.event = some (st, true) ∧ w = st.name) :
          ((s.run (y :: h)).status jobId = some v ∨
            ∃ x ∈ y :: h, ∃ st, changeOf? jobId x.event = some (st, true) ∧
              (s.run (y :: h)).status jobId = some st.name) := by
        obtain hsame | ⟨x, hx, st, hc, hst⟩ := ih hl.2 hw
        · by_cases hwv : w = v
          · exact .inl (hwv ▸ hsame)
          · obtain ⟨st, hc, rfl⟩ := hmoved hwv
            exact .inr ⟨y, List.mem_cons_self .., st, hc, hsame⟩
        · exact .inr ⟨x, List.mem_cons_of_mem _ hx, st, hc, hst⟩
      obtain ⟨st, hc⟩ | hsame := status_after hl.1 hv
      · exact later (status_of_made hl.1 hc).2 fun _ => ⟨st, hc, rfl⟩
      · exact later hsame fun hne => absurd rfl hne

theorem status_of_final (hl : s.Legal h) (hs : s.status jobId = some st.name)
    (hf : st.isFinal = true) : (s.run h).status jobId = some st.name := by
  obtain hsame | ⟨x, hx, a, ha, -⟩ := status_run hl hs
  · exact hsame
  · have hp : s.Past jobId 3 := ⟨st, hs, Nat.le_of_eq (JobStatus.isFinal_iff.1 hf).symm⟩
    have hlt := hp.lt_rank_of_mem hl hx ha
    have hle := a.rank_le
    omega

/-! ### The register -/

theorem sound_run (hs : s.workers.Sound) : (s.run h).workers.Sound := by
  induction h generalizing s with
  | nil => exact hs
  | cons x h ih =>
      rw [run_cons]
      apply ih
      obtain ⟨op, -, hop⟩ | ⟨-, hop⟩ := s.workers_after x.event.op
      · rw [hop]
        exact RegisterOp.sound_apply hs op
      · rw [hop]
        exact hs

/-- A question puts another token, or none, in place of a job's. -/
def Displaces (jobId : String) (x : Entry) : Prop :=
  ∃ op : RegisterOp, x.event.op = .register op ∧ op.Displaces jobId

/-- A token that a job has not stays away from it. -/
theorem get?_run_ne (ht : t < s.workers.issued) (hne : s.workers.tokens.get? jobId ≠ some t) :
    (s.run h).workers.tokens.get? jobId ≠ some t := by
  induction h generalizing s with
  | nil => exact hne
  | cons x h ih =>
      rw [run_cons]
      obtain ⟨op, -, hop⟩ | ⟨-, hop⟩ := s.workers_after x.event.op
      · apply ih
        · rw [hop]
          exact Nat.lt_of_lt_of_le ht (RegisterOp.issued_le_apply _ op)
        · rw [hop]
          exact RegisterOp.get?_apply_ne ht hne op
      · exact ih (hop ▸ ht) (hop ▸ hne)

/-- A job has the token that it had unless it was displaced. -/
theorem get?_run_iff (ht : t < s.workers.issued) (hs : s.workers.tokens.get? jobId = some t) :
    (s.run h).workers.tokens.get? jobId = some t ↔ ∀ x ∈ h, ¬ Displaces jobId x := by
  induction h generalizing s with
  | nil => simpa using hs
  | cons x h ih =>
      rw [run_cons, List.forall_mem_cons]
      obtain ⟨op, heq, hop⟩ | ⟨hnone, hop⟩ := s.workers_after x.event.op
      · have ht' : t < (s.after x.event.op).workers.issued := by
          rw [hop]
          exact Nat.lt_of_lt_of_le ht (RegisterOp.issued_le_apply _ op)
        by_cases ho : op.Displaces jobId
        · have hgone : (s.after x.event.op).workers.tokens.get? jobId ≠ some t := by
            rw [hop]
            exact RegisterOp.get?_apply_of_displaces ht ho
          constructor
          · exact fun hlast => absurd hlast (get?_run_ne ht' hgone)
          · exact fun hnot => absurd ⟨op, heq, ho⟩ hnot.1
        · have hkept : (s.after x.event.op).workers.tokens.get? jobId = some t := by
            rw [hop]
            exact RegisterOp.get?_apply_of_not_displaces hs ho
          rw [ih ht' hkept, iff_and_self]
          intro _ ⟨op', heq', ho'⟩
          cases heq.symm.trans heq'
          exact ho ho'
      · rw [ih (hop ▸ ht) (hop ▸ hs), iff_and_self]
        intro _ ⟨op', heq', _⟩
        exact hnone op' heq'

theorem mem_tripped_after {op : ServiceOp} :
    t ∈ (s.after op).workers.tripped ↔ t ∈ s.workers.tripped ∨
      ∃ id, op = .register (.trip id) ∧ s.workers.tokens.get? id = some t := by
  obtain ⟨op, rfl, hop⟩ | ⟨hnone, hop⟩ := s.workers_after op
  · rw [hop, RegisterOp.mem_tripped_apply]
    simp
  · rw [hop]
    simp [hnone]

theorem mem_tripped_run :
    t ∈ (s.run h).workers.tripped ↔ t ∈ s.workers.tripped ∨
      ∃ before x after id, h = before ++ x :: after ∧ x.event.op = .register (.trip id) ∧
        (s.run before).workers.tokens.get? id = some t := by
  induction h generalizing s with
  | nil => simp
  | cons x h ih =>
      rw [run_cons, ih, mem_tripped_after, or_assoc]
      apply or_congr_right
      constructor
      · intro htrip
        obtain ⟨id, hop, hid⟩ | ⟨before, y, after, id, rfl, hop, hid⟩ := htrip
        · exact ⟨[], x, h, id, rfl, hop, hid⟩
        · exact ⟨x :: before, y, after, id, rfl, hop, hid⟩
      · intro ⟨before, y, after, id, heq, hop, hid⟩
        cases before with
        | nil =>
            obtain ⟨rfl, rfl⟩ := List.cons.inj heq
            exact .inl ⟨id, hop, hid⟩
        | cons z before =>
            obtain ⟨rfl, rfl⟩ := List.cons.inj heq
            exact .inr ⟨before, y, after, id, rfl, hop, hid⟩

end Shared
end ImageryJobs
