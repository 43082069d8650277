import ImageryJobs.Proofs.Orders
import ImageryJobs.Proofs.Service.Interleaving

/-!
Whether a cancelling call reaches the worker. The token that it trips is the one on the register at
that moment, and a worker that runs the engine may have lost its place there: to a call that queued
the job, or to another worker that found the job taken and left.
-/

namespace ImageryJobs
namespace Service

variable {s : Service} {jobId : String} {store : Store} {w : State} {i c : Nat} {t : Token}

/-- A worker is in a run of the engine, under a token. -/
def State.Inside (s : Service) (jobId : String) (w : State) (i : Nat) (t : Token) : Prop :=
  ∃ rest tasks events left, w.calls[i]? = some ⟨.work, rest⟩ ∧
    logOf i w.history =
      ⟨.register (.token jobId), t⟩ :: ⟨.store (.transition jobId .running none), .ok true⟩ ::
        ⟨.store (.listTasks jobId), .ok tasks⟩ :: events ∧
    (ServiceScript.ofEngine t (s.engine.run jobId tasks)).Follows events left ∧
    left.isDone = false

/-- Only the call that changed the job to canceled trips a token. -/
theorem Coherent.caller_of_trip (h : Coherent s jobId store w) {x y : Entry} (hx : x ∈ w.history)
    {id : String} (hop : x.event.op = .register (.trip id)) (hy : y ∈ w.history)
    (hc : changeOf? jobId y.event = some (.canceled, true)) : x.caller = y.caller ∧ id = jobId := by
  obtain ⟨⟨call, rest⟩, ho, hasks⟩ := h.asked hx
  rw [hop] at hasks
  have hf := h.follows x.caller _ ho
  cases call with
  | start => simp [Call.Asks, Call.looks] at hasks
  | work => simp [Call.Asks, Call.looks] at hasks
  | cancel =>
      have hid : id = jobId := by simpa [Call.Asks, Call.looks] using hasks
      obtain ⟨count, hlog⟩ | ⟨hnone, -⟩ := follows_cancel hf
      · have hmade : (⟨x.caller, ⟨.store (.transition jobId .canceled none), .ok true⟩⟩ : Entry) ∈
            w.history := mem_logOf.1 (by rw [hlog]; simp)
        have heq := Shared.eq_of_made h.legal hmade hy (changeOf?_transition ..) hc rfl
        exact ⟨congrArg (·.caller) heq, hid⟩
      · exact absurd (hid ▸ hop) (hnone x.event (mem_logOf.2 hx))

/-- A cancelling call that succeeded tripped what was on the register at its last step, and nothing
else was ever tripped. -/
theorem Coherent.tripped_iff (h : Coherent s jobId store w)
    (hc : w.result? c .cancel = some (.ok ())) :
    ∃ upto after, w.history = upto ++ ⟨c, ⟨.register (.trip jobId), ()⟩⟩ :: after ∧
      (∃ x ∈ upto, changeOf? jobId x.event = some (.canceled, true)) ∧
      ∀ t, t ∈ w.shared.workers.tripped ↔
        ((Shared.initial store).run upto).workers.tokens.get? jobId = some t := by
  obtain ⟨count, hlog⟩ | ⟨-, hnot⟩ := follows_cancel (h.follows c _ (State.result?_eq_some.1 hc))
  · obtain ⟨upto, after, heq, hbefore, hafter⟩ := logOf_split (l := [_, _]) hlog
    have hcanceled : (⟨c, ⟨.store (.transition jobId .canceled none), .ok true⟩⟩ : Entry) ∈ upto :=
      mem_logOf.1 (by rw [hbefore]; simp)
    refine ⟨upto, after, heq, ⟨_, hcanceled, changeOf?_transition ..⟩, fun t => ?_⟩
    rw [h.shared, Shared.mem_tripped_run]
    constructor
    · intro htripped
      obtain hnone | ⟨upto', x, after', id, heq', hop, hid⟩ := htripped
      · cases hnone
      obtain ⟨hcaller, rfl⟩ := h.caller_of_trip (heq' ▸ by simp) hop
        (heq ▸ List.mem_append_left _ hcanceled) (changeOf?_transition ..)
      have hx : x = ⟨c, ⟨.register (.trip id), ()⟩⟩ := by
        obtain ⟨j, op, answer⟩ := x
        cases hop
        cases hcaller
        rfl
      subst hx
      -- The call trips only once, so both splits of the history are at the same place.
      have hsame : upto' = upto := by
        obtain ⟨rest, rfl, -⟩ | ⟨rest, rfl, htail⟩ := append_eq_split (heq.symm.trans heq')
        · have hmem : (⟨.register (.trip id), ()⟩ : ServiceEvent) ∈
              logOf c (upto' ++ ⟨c, ⟨.register (.trip id), ()⟩⟩ :: rest) := mem_logOf.2 (by simp)
          rw [hbefore] at hmem
          simp at hmem
        · cases rest with
          | nil => simp
          | cons x rest =>
              obtain ⟨rfl, rfl⟩ := List.cons.inj htail
              change logOf c (rest ++ _) = [] at hafter
              rw [logOf_append, logOf_self] at hafter
              simp at hafter
      rwa [hsame] at hid
    · exact fun hid => .inr ⟨upto, _, after, jobId, heq, rfl, hid⟩
  · exact absurd rfl hnot

/-- When a cancelling call has succeeded and a worker runs the engine, the worker's token is tripped
just if the worker kept its place on the register from the moment it got the token to the moment of
the trip: no call queued the job meanwhile, and no other worker took it off. -/
theorem tripped_iff_of_inside (h : Reachable s jobId store w) (hi : w.Inside s jobId i t)
    (hc : w.result? c .cancel = some (.ok ())) :
    ∃ before between after,
      w.history = before ++ ⟨i, ⟨.register (.token jobId), t⟩⟩ ::
        (between ++ ⟨c, ⟨.register (.trip jobId), ()⟩⟩ :: after) ∧
      (t ∈ w.shared.workers.tripped ↔ ∀ x ∈ between, ¬ Shared.Displaces jobId x) := by
  have coherent := h.coherent
  obtain ⟨rest, tasks, events, left, -, hlog, -, -⟩ := hi
  obtain ⟨before, later, heq, -, hlater⟩ := logOf_split (l := []) hlog
  have hrunning : (⟨i, ⟨.store (.transition jobId .running none), .ok true⟩⟩ : Entry) ∈ later :=
    mem_logOf.1 (by rw [hlater]; simp)
  obtain ⟨upto, after, heq', ⟨x, hx, hcanceled⟩, htripped⟩ := coherent.tripped_iff hc
  have legal := coherent.legal
  -- The job was running before it was canceled, so the worker had its token before the trip.
  obtain ⟨between, rfl, rfl⟩ : ∃ between,
      upto = before ++ ⟨i, ⟨.register (.token jobId), t⟩⟩ :: between ∧
        later = between ++ ⟨c, ⟨.register (.trip jobId), ()⟩⟩ :: after := by
    obtain ⟨rest, rfl, -⟩ | ⟨rest, hupto, htail⟩ := append_eq_split (heq.symm.trans heq')
    · rw [heq] at legal
      have hlt := Shared.rank_lt_of_made legal (List.mem_append_left _ hx)
        (List.mem_cons_of_mem _ hrunning) hcanceled (changeOf?_transition ..)
      exact absurd hlt (by decide)
    · cases rest with
      | nil => cases htail
      | cons y rest =>
          obtain ⟨rfl, rfl⟩ := List.cons.inj htail
          exact ⟨rest, hupto, rfl⟩
  refine ⟨before, between, after, heq, ?_⟩
  rw [heq, Shared.legal_append] at legal
  have hgiven := RegisterOp.get?_apply_token ((Shared.initial store).run before).workers jobId
  rw [← show t = _ from legal.2.1] at hgiven
  have hsound : ((Shared.initial store).run
      (before ++ [⟨i, ⟨.register (.token jobId), t⟩⟩])).workers.Sound :=
    Shared.sound_run fun jobId t ht => by cases ht
  rw [Shared.run_append] at hsound
  rw [htripped, Shared.run_append, Shared.run_cons]
  exact Shared.get?_run_iff (hsound jobId t hgiven) hgiven

theorem inside_sample (moves : List Move)
    (hi : ∃ rest, (playSample moves).calls[1]? = some ⟨.work, rest⟩)
    (hlog : logOf 1 (playSample moves).history =
      [⟨.register (.token "j"), (0 : Token)⟩, ⟨.store (.transition "j" .running none), .ok true⟩,
        ⟨.store (.listTasks "j"), .ok [sampleTask]⟩]) :
    (playSample moves).Inside sampleService "j" 1 0 := by
  obtain ⟨rest, hi⟩ := hi
  exact ⟨rest, [sampleTask], [], _, hi, hlog, .stop _, by decide +kernel⟩

theorem tripped_iff_of_inside_sample :
    ∃ w before between after, Reachable sampleService "j" sampleStore w ∧
      w.Inside sampleService "j" 1 0 ∧ w.result? 2 .cancel = some (.ok ()) ∧
      w.history = before ++ ⟨1, ⟨.register (.token "j"), (0 : Token)⟩⟩ ::
        (between ++ ⟨2, ⟨.register (.trip "j"), ()⟩⟩ :: after) ∧
      (0 ∈ w.shared.workers.tripped ↔ ∀ x ∈ between, ¬ Shared.Displaces "j" x) ∧
      0 ∈ w.shared.workers.tripped := by
  let moves := sampleWork ++ [.call .cancel, .ask 2, .ask 2, .ask 2]
  have reachable := reachable_playSample moves
  have inside := inside_sample moves ⟨_, rfl⟩ (by decide +kernel)
  have hc : (playSample moves).result? 2 .cancel = some (.ok ()) := by decide +kernel
  obtain ⟨before, between, after, heq, hiff⟩ := tripped_iff_of_inside reachable inside hc
  exact ⟨_, before, between, after, reachable, inside, hc, heq, hiff, by decide +kernel⟩

/-- Another worker that finds the job taken puts the first one out of reach: a cancelling call then
succeeds, and the run of the engine goes on under a token that is not tripped. -/
theorem inside_untripped :
    ∃ w, Reachable sampleService "j" sampleStore w ∧ w.Inside sampleService "j" 1 0 ∧
      w.result? 3 .cancel = some (.ok ()) ∧ 0 ∉ w.shared.workers.tripped :=
  ⟨_, reachable_playSample (sampleWork ++ [.call .work, .ask 2, .ask 2, .ask 2, .ask 2,
      .call .cancel, .ask 3, .ask 3, .ask 3]),
    inside_sample _ ⟨_, rfl⟩ (by decide +kernel), by decide +kernel, by decide +kernel⟩

end Service
end ImageryJobs
