import ImageryJobs.Proofs.Orders
import ImageryJobs.Proofs.Service.Interleaving

/-!
Whether a worker reports the status in which its job ends. It does, unless the job was canceled
after the engine failed and before the failure was recorded: the refusal of that change is passed
over.
-/

namespace ImageryJobs
namespace Service

variable {s : Service} {jobId : String} {store : Store} {w : State} {i : Nat}

/-- A worker asked to record a failure when the job was canceled already. -/
def State.Overtaken (jobId : String) (w : State) (i : Nat) : Prop :=
  ∃ before e after made, w.history = before ++ ⟨i, e⟩ :: after ∧
    changeOf? jobId e = some (.error, made) ∧
    ∃ x ∈ before, changeOf? jobId x.event = some (.canceled, true)

theorem mem_of_append_cons_eq_pair {α : Type} {a b c : α} {l m : List α}
    (h : l ++ c :: m = [a, b]) (hc : c ≠ a) : a ∈ l := by
  cases l with
  | nil => exact absurd (List.cons.inj h).1 hc
  | cons x l => exact (List.cons.inj h).1 ▸ List.mem_cons_self ..

theorem Driven.changes_of_final {log : List ServiceEvent}
    {rest : ServiceScript (Except ServiceError JobStatus)} (h : Driven jobId log rest)
    {st : JobStatus} {made : Bool} (hc : (st, made) ∈ changes jobId log)
    (hf : st.isFinal = true) : changes jobId log = [(.running, true), (st, made)] := by
  cases h with
  | silent asked _ => simp [asked] at hc
  | refused asked _ _ | running asked _ =>
      rw [asked] at hc
      obtain ⟨rfl, -⟩ := Prod.mk.inj (List.mem_singleton.1 hc)
      cases hf
  | settled status made' asked _ _ _ =>
      rw [asked] at hc ⊢
      obtain hc | hc := List.mem_cons.1 hc
      · obtain ⟨rfl, -⟩ := Prod.mk.inj hc
        cases hf
      · rw [List.mem_singleton.1 hc]

namespace Coherent

/-- A final status that was brought about is the status ever after. -/
theorem status_of_made (h : Coherent s jobId store w) {x : Entry} (hx : x ∈ w.history)
    {st : JobStatus} (hc : changeOf? jobId x.event = some (st, true)) (hf : st.isFinal = true) :
    w.status jobId = some st.name := by
  obtain ⟨before, after, heq⟩ := List.append_of_mem hx
  have legal := h.legal
  rw [heq, Shared.legal_append] at legal
  rw [State.status, h.shared, heq, Shared.run_append, Shared.run_cons]
  exact Shared.status_of_final legal.2.2 (Shared.status_of_made legal.2.1 hc).2 hf

/-- A worker that asked for a final status had made the job run, and asks for no other. -/
theorem changes_of_final (h : Coherent s jobId store w)
    {rest : ServiceScript (Except ServiceError JobStatus)}
    (hi : w.calls[i]? = some ⟨.work, rest⟩) {st : JobStatus} {made : Bool}
    (hc : (st, made) ∈ changes jobId (logOf i w.history)) (hf : st.isFinal = true) :
    changes jobId (logOf i w.history) = [(.running, true), (st, made)] := by
  obtain ⟨hlog, -⟩ | ⟨token, later, hlog, hlater⟩ := follows_runJob (h.follows i _ hi)
  · simp [hlog] at hc
  · rw [hlog, changes_register] at hc ⊢
    obtain ⟨t, ht, -⟩ | ⟨driven, result, rfl, hd, -⟩ := hlater
    · exact (follows_drive ht).changes_of_final hc hf
    · rw [changes_append, changes_register, changes_nil, List.append_nil] at hc ⊢
      exact (follows_drive hd).changes_of_final hc hf

/-- A job that a worker made run is canceled unless that worker ends it. -/
theorem canceled_or_caller (h : Coherent s jobId store w) {e : ServiceEvent}
    (hi : ⟨i, e⟩ ∈ w.history) (hrun : changeOf? jobId e = some (.running, true)) {x : Entry}
    (hx : x ∈ w.history) {st : JobStatus} (hc : changeOf? jobId x.event = some (st, true))
    (hf : st.isFinal = true) : st = .canceled ∨ x.caller = i := by
  obtain ⟨⟨call, rest⟩, ho, hasks⟩ := h.asked hx
  obtain ⟨error, hevent⟩ := changeOf?_eq_some hc
  rw [hevent] at hasks
  have htarget : st ∈ call.targets := hasks.2
  cases call with
  | start =>
      rw [List.mem_singleton.1 htarget] at hf
      cases hf
  | cancel => exact .inl (List.mem_singleton.1 htarget)
  | work =>
      have hasked := h.changes_of_final ho (mem_changes hx hc) hf
      have hmem : (.running, true) ∈ changes jobId (logOf x.caller w.history) := by simp [hasked]
      obtain ⟨e', he', hrun'⟩ := List.mem_filterMap.1 hmem
      have heq := Shared.eq_of_made h.legal (mem_logOf.1 he') hi hrun' hrun rfl
      exact .inr (congrArg (·.caller) heq)

/-- When a worker that made the job run is refused a final status, the job was canceled. -/
theorem canceled_of_refused (h : Coherent s jobId store w) {st : JobStatus}
    (hf : st.isFinal = true)
    (hasked : changes jobId (logOf i w.history) = [(.running, true), (st, false)])
    {before after : List Entry} {e : ServiceEvent} (heq : w.history = before ++ ⟨i, e⟩ :: after)
    (hc : changeOf? jobId e = some (st, false)) :
    (∃ x ∈ before, changeOf? jobId x.event = some (.canceled, true)) ∧
      ((Shared.initial store).run before).status jobId = some JobStatus.canceled.name := by
  have legal := h.legal
  rw [heq, Shared.legal_append] at legal
  -- The worker made the job run before it was refused.
  have hrun : (.running, true) ∈ changes jobId (logOf i before) := by
    rw [heq, logOf_append, logOf_self, changes_append, changes_cons hc] at hasked
    exact mem_of_append_cons_eq_pair hasked (by simp)
  obtain ⟨e', he', hmade⟩ := List.mem_filterMap.1 hrun
  have hi := mem_logOf.1 he'
  obtain ⟨first, between, rfl⟩ := List.append_of_mem hi
  rw [Shared.legal_append] at legal
  obtain ⟨⟨-, hg, hbetween⟩, hrefused, -⟩ := legal
  obtain hstill | ⟨x, hx, st', hc', hst'⟩ :=
    Shared.status_run hbetween (Shared.status_of_made hg hmade).2
  · rw [Shared.run_append, Shared.run_cons] at hrefused
    exact absurd hstill
      (Shared.status_of_refused hrefused hc _ (JobStatus.running_mem_predecessors hf))
  · have hpast : (JobStatus.running).rank < st'.rank :=
      Shared.Past.lt_rank_of_mem (Shared.past_of_made hg hmade) hbetween hx hc'
    have hf' : st'.isFinal = true := by
      cases st' <;> first | rfl | simp [JobStatus.rank] at hpast
    have hiw : (⟨i, e'⟩ : Entry) ∈ w.history := heq ▸ by simp
    have hxw : x ∈ w.history := heq ▸ by simp [hx]
    obtain rfl | hcaller := h.canceled_or_caller hiw hmade hxw hc' hf'
    · exact ⟨⟨x, by simp [hx], hc'⟩, by rw [Shared.run_append, Shared.run_cons]; exact hst'⟩
    · have hmem := mem_changes hxw hc'
      rw [hcaller, hasked] at hmem
      have hst : st' = .running := by simpa using hmem
      rw [hst] at hf'
      cases hf'

/-- A worker that asked for a final status has it, or finds the job canceled. -/
theorem settled (h : Coherent s jobId store w) {st : JobStatus} {made : Bool}
    (hf : st.isFinal = true)
    (hasked : changes jobId (logOf i w.history) = [(.running, true), (st, made)]) :
    (made = true ∧ w.status jobId = some st.name ∧ ¬ w.Overtaken jobId i) ∨
      (made = false ∧ w.status jobId = some JobStatus.canceled.name ∧
        (w.Overtaken jobId i ↔ st = .error)) := by
  have hlast : (st, made) ∈ changes jobId (logOf i w.history) := by simp [hasked]
  obtain ⟨e, he, hc⟩ := List.mem_filterMap.1 hlast
  have asked_of_overtaken {e' : ServiceEvent} {before after : List Entry} {made' : Bool}
      (heq : w.history = before ++ ⟨i, e'⟩ :: after)
      (hc' : changeOf? jobId e' = some (.error, made')) : st = .error ∧ made' = made := by
    have hmem := mem_changes (h := w.history) (x := ⟨i, e'⟩) (heq ▸ by simp) hc'
    rw [hasked] at hmem
    simpa [eq_comm] using hmem
  cases made with
  | true =>
      refine .inl ⟨rfl, h.status_of_made (mem_logOf.1 he) hc hf, ?_⟩
      rintro ⟨before, e', after, made', heq, hc', x, hx, hcanceled⟩
      obtain ⟨-, rfl⟩ := asked_of_overtaken heq hc'
      have hlt := Shared.rank_lt_of_made (heq ▸ h.legal) hx (List.mem_cons_self ..) hcanceled hc'
      exact absurd hlt (by decide)
  | false =>
      obtain ⟨before, after, heq⟩ := List.append_of_mem (mem_logOf.1 he)
      obtain ⟨⟨x, hx, hcanceled⟩, -⟩ := h.canceled_of_refused hf hasked heq hc
      refine .inr ⟨rfl, h.status_of_made (heq ▸ by simp [hx]) hcanceled rfl, ?_⟩
      constructor
      · rintro ⟨before, e', after, made', heq, hc', -⟩
        exact (asked_of_overtaken heq hc').1
      · intro heq
        subst heq
        exact ⟨before, e, after, false, heq, hc, x, hx, hcanceled⟩

theorem status_of_read (h : Coherent s jobId store w) {job : Job}
    (he : ⟨.store (.getJob jobId), .ok (some job)⟩ ∈ logOf i w.history)
    (hst : job.status = .canceled) : w.status jobId = some JobStatus.canceled.name := by
  obtain ⟨before, after, heq⟩ := List.append_of_mem (mem_logOf.1 he)
  have legal := h.legal
  rw [heq, Shared.legal_append] at legal
  rw [State.status, h.shared, heq, Shared.run_append]
  refine Shared.status_of_final legal.2 ?_ rfl
  rw [← hst]
  exact Shared.status_of_read legal.2.1

/-- A job that is read after a final status was refused is read as canceled. -/
theorem read_of_refused (h : Coherent s jobId store w) {st : JobStatus} (hf : st.isFinal = true)
    (hasked : changes jobId (logOf i w.history) = [(.running, true), (st, false)])
    {first last : List ServiceEvent} {error : Option String} {job : Job}
    (hlog : logOf i w.history = first ++ ⟨.store (.transition jobId st error), .ok false⟩ ::
      ⟨.store (.getJob jobId), .ok (some job)⟩ :: last) : job.status = .canceled := by
  obtain ⟨before, after, heq, -, hafter⟩ := logOf_split hlog
  obtain ⟨between, rest, rfl, -, -⟩ := logOf_split (l := []) hafter
  obtain ⟨-, hst⟩ := h.canceled_of_refused hf hasked heq (changeOf?_transition ..)
  have legal := h.legal
  rw [heq, Shared.legal_append, ← List.cons_append, Shared.legal_append] at legal
  have hstays := Shared.status_of_final legal.2.1 hst rfl
  have hread := Shared.status_of_read legal.2.2.1
  exact JobStatus.name_inj (Option.some.inj (hread.symm.trans hstays))

end Coherent

/-- What a worker gives when it returns, the job ends in: a status that it returns is the status of
the job from then on, and after it has returned that the cluster is unavailable the status is error.
This fails just if the job was canceled before the worker asked to record the failure of the engine,
and then the status is canceled. -/
theorem runJob_reports (h : Reachable s jobId store w) {result : Except ServiceError JobStatus}
    (hi : w.result? i .work = some result) :
    (∀ st, result = .ok st → (w.status jobId = some st.name ↔ ¬ w.Overtaken jobId i)) ∧
      (∀ cause, result = .error (.clusterUnavailable cause) →
        (w.status jobId = some JobStatus.error.name ↔ ¬ w.Overtaken jobId i)) ∧
      (w.Overtaken jobId i → w.status jobId = some JobStatus.canceled.name) := by
  have coherent := h.coherent
  have hcanceled (ho : w.Overtaken jobId i) : w.status jobId = some JobStatus.canceled.name := by
    obtain ⟨before, e, after, made, heq, -, x, hx, hc⟩ := ho
    exact coherent.status_of_made (heq ▸ by simp [hx]) hc rfl
  obtain ⟨-, going⟩ | ⟨token, later, hlog, ⟨t, -, going⟩ | ⟨driven, result', rfl, hran, hdone⟩⟩ :=
    follows_runJob (coherent.follows i _ (State.result?_eq_some.1 hi))
  · exact absurd rfl (going result)
  · exact absurd rfl (going result)
  cases hdone
  have hasked : changes jobId (logOf i w.history) = changes jobId driven := by
    rw [hlog, changes_register, changes_append, changes_register, changes_nil, List.append_nil]
  cases follows_drive hran with
  | silent _ untold | running _ untold =>
      exact ⟨fun st heq => absurd (heq ▸ rfl) (untold.1 st),
        fun cause heq => absurd (heq ▸ rfl) (untold.2 cause), hcanceled⟩
  | refused asked told unblamed =>
      have unasked : ¬ w.Overtaken jobId i := by
        intro ⟨before, e, after, made, heq, hc, _⟩
        have hmem := mem_changes (h := w.history) (x := ⟨i, e⟩) (heq ▸ by simp) hc
        simp [hasked, asked] at hmem
      refine ⟨fun st heq => ?_, fun cause heq => absurd (heq ▸ rfl) (unblamed cause), hcanceled⟩
      obtain ⟨rfl, job, first, hst, rfl⟩ := told st (heq ▸ rfl)
      have hread : ⟨.store (.getJob jobId), .ok (some job)⟩ ∈ logOf i w.history := by
        rw [hlog]
        simp
      exact iff_of_true (coherent.status_of_read hread hst) unasked
  | settled status made asked final told blamed =>
      rw [asked] at hasked
      have hsettled := coherent.settled final hasked
      refine ⟨fun st heq => ?_, fun cause heq => ?_, hcanceled⟩
      · obtain ⟨rfl, hmade⟩ | ⟨rfl, rfl, job, error, first, rfl, rfl⟩ := told st (heq ▸ rfl)
        · obtain ⟨-, hstatus, hnot⟩ | ⟨rfl, hstatus, hiff⟩ := hsettled
          · exact iff_of_true hstatus hnot
          · rw [hstatus, hiff]
            cases st with
            | created | queued | running => cases final
            | canceled => simp
            | finished => exact absurd (hmade rfl) (by simp)
            | error => simp [JobStatus.name]
        · obtain ⟨hmade, -⟩ | ⟨-, hstatus, hiff⟩ := hsettled
          · cases hmade
          · have hread : logOf i w.history = (⟨.register (.token jobId), token⟩ :: first) ++
                ⟨.store (.transition jobId .finished error), .ok false⟩ ::
                  ⟨.store (.getJob jobId), .ok (some job)⟩ :: [⟨.register (.remove jobId), ()⟩] :=
              hlog.trans (by simp)
            rw [coherent.read_of_refused final hasked hread, hiff]
            exact iff_of_true hstatus (by simp)
      · obtain rfl := blamed cause (heq ▸ rfl)
        obtain ⟨-, hstatus, hnot⟩ | ⟨-, hstatus, hiff⟩ := hsettled
        · exact iff_of_true hstatus hnot
        · rw [hstatus, hiff]
          simp [JobStatus.name]

theorem runJob_reports_sample :
    ∃ w result cause, Reachable sampleService "j" sampleStore w ∧ w.result? 1 .work = some result ∧
      (∀ st, result = .ok st → (w.status "j" = some st.name ↔ ¬ w.Overtaken "j" 1)) ∧
      (∀ cause, result = .error (.clusterUnavailable cause) →
        (w.status "j" = some JobStatus.error.name ↔ ¬ w.Overtaken "j" 1)) ∧
      (w.Overtaken "j" 1 → w.status "j" = some JobStatus.canceled.name) ∧
      result = .error (.clusterUnavailable cause) ∧ w.status "j" = some JobStatus.error.name := by
  let moves := sampleWork ++ List.replicate 9 (.ask 1)
  have reachable := reachable_playSample moves
  have hi : (playSample moves).result? 1 .work =
      some (.error (.clusterUnavailable (.transport ""))) := by decide +kernel
  have reports := runJob_reports reachable hi
  exact ⟨_, _, .transport "", reachable, hi, reports.1, reports.2.1, reports.2.2, rfl,
    by decide +kernel⟩

/-- A job that is canceled while its engine fails stays canceled, and its worker returns as for a
failed one. -/
theorem runJob_misreports :
    ∃ w cause, Reachable sampleService "j" sampleStore w ∧
      w.result? 1 .work = some (.error (.clusterUnavailable cause)) ∧
      w.status "j" = some JobStatus.canceled.name :=
  ⟨_, .transport "", reachable_playSample (sampleWork ++ [.ask 1, .call .cancel, .ask 2] ++
    List.replicate 8 (.ask 1)), by decide +kernel, by decide +kernel⟩

end Service
end ImageryJobs
