import ImageryJobs.Proofs.Engine.Lifetime
import ImageryJobs.Proofs.Engine.Reports
import ImageryJobs.Proofs.Engine.Serving

/-!
What the observer of a run hears, whatever it answers: each task that finished is reported as started
and as finished, and then at most one more task is reported, by which the run ends.
-/

namespace ImageryJobs

namespace Script

variable {I : Interface} {α β : Type} {P : I.Op → Prop}

/-- What the script does does not depend on what it is answered to questions with `P`. -/
def Ignores (P : I.Op → Prop) : Script I α → Prop
  | .done _ => True
  | .ask op next => (P op → ∀ answer answer', next answer = next answer') ∧ ∀ answer, Ignores P (next answer)

theorem Ignores.bind {s : Script I α} {f : α → Script I β} (hs : s.Ignores P)
    (hf : ∀ value, (f value).Ignores P) : (s >>= f).Ignores P := by
  induction s with
  | done value => exact hf value
  | ask op next ih =>
      refine ⟨fun hp answer answer' => ?_, fun answer => ih answer (hs.2 answer)⟩
      change (next answer >>= f) = (next answer' >>= f)
      rw [hs.1 hp answer answer']

theorem Asks.ignores {s : Script I α} (h : s.Asks fun op => ¬ P op) : s.Ignores P := by
  induction s with
  | done value => trivial
  | ask op next ih => exact ⟨fun hp => absurd hp h.1, fun answer => ih answer (h.2 answer)⟩

/-- Another answer to such a question changes nothing else of a run. -/
theorem Ignores.ran {s : Script I α} (h : s.Ignores P) {before after : List (Event I)} {op : I.Op}
    {answer : I.Answer op} {value : α} (hr : s.Ran (before ++ ⟨op, answer⟩ :: after) value) (hp : P op)
    (answer' : I.Answer op) : s.Ran (before ++ ⟨op, answer'⟩ :: after) value := by
  induction before generalizing s with
  | nil =>
      cases hr with
      | answered hr =>
          rw [h.1 hp answer answer'] at hr
          exact .answered hr
  | cons x before ih =>
      cases hr with
      | answered hr => exact .answered (ih (h.2 _) hr)

end Script

namespace Engine

open Script EngineScript

variable {e : Engine} {jobId : String} {tasks : List Task} {arena arena' : Arena Resource}
  {log : List (Event engineInterface)} {result : Except EngineError (List TaskOutcome)}

/-! ### Calls -/

/-- A call of the observer, and its answer. -/
def call? : Event engineInterface → Option (TaskEvent × Except EngineError Unit)
  | ⟨.report event, answer⟩ => some (event, answer)
  | ⟨.cluster _, _⟩ => none

def calls (log : List (Event engineInterface)) : List (TaskEvent × Except EngineError Unit) :=
  log.filterMap call?

@[simp] theorem calls_nil : calls [] = [] := rfl

@[simp] theorem calls_append (l l' : List (Event engineInterface)) :
    calls (l ++ l') = calls l ++ calls l' := List.filterMap_append

@[simp] theorem calls_look (tripped : Bool) (log : List (Event engineInterface)) :
    calls (look tripped :: log) = calls log := rfl

@[simp] theorem calls_told (event : TaskEvent) (answer : Except EngineError Unit)
    (log : List (Event engineInterface)) : calls (told event answer :: log) = (event, answer) :: calls log :=
  rfl

theorem calls_of_quiet {α : Type} {s t : EngineScript α} (h : s.Asks Quiet) (hf : s.Follows log t) :
    calls log = [] := by
  refine List.filterMap_eq_nil_iff.2 fun x hx => ?_
  have quiet := h.follows hf x hx
  obtain ⟨op, answer⟩ := x
  cases op with
  | cluster op => rfl
  | report event => exact absurd rfl (quiet event)

theorem reports_of_calls {l : List (TaskEvent × Except EngineError Unit)} (h : calls log = l) :
    reports log = l.map Prod.fst := by
  rw [← h, calls, List.map_filterMap]
  refine List.filterMap_congr fun x _ => ?_
  obtain ⟨op, answer⟩ := x
  cases op <;> rfl

/-- The calls for tasks that finished. -/
def completed (past : List (Task × TaskOutcome)) : List (TaskEvent × Except EngineError Unit) :=
  past.flatMap fun p => [(.started p.1, .ok ()), (.finished p.1 p.2, .ok ())]

/-- What a run of tasks does after `past` when `rest` is left: nothing if that is none, or it comes to
an end with the first of them. -/
inductive Closing (past : List (Task × TaskOutcome)) : List Task → List (Event engineInterface) →
    Except EngineError (List TaskOutcome) → Prop where
  | complete : Closing past [] [] (.ok (past.map Prod.snd))
  /-- The work was seen cancelled before the task was started. -/
  | withdrawn (task : Task) (rest : List Task) (answer : Except EngineError Unit) :
      Closing past (task :: rest)
        [look true, told (.failed task (.cancelled task.seqNum task.processId)) answer]
        (.error (.cancelled task.seqNum task.processId))
  | failed (task : Task) (rest : List Task) {work : List (Event engineInterface)} (error : EngineError)
      (answer : Except EngineError Unit) (quiet : calls work = []) :
      Closing past (task :: rest)
        (look false :: told (.started task) (.ok ()) :: work ++ [told (.failed task error) answer])
        (.error error)
  /-- The observer failed when it was told of the start. -/
  | unstarted (task : Task) (rest : List Task) (error : EngineError) :
      Closing past (task :: rest) [look false, told (.started task) (.error error)] (.error error)
  /-- The observer failed when it was told of the end. -/
  | unfinished (task : Task) (rest : List Task) {work : List (Event engineInterface)}
      (outcome : TaskOutcome) (error : EngineError) (quiet : calls work = []) :
      Closing past (task :: rest)
        (look false :: told (.started task) (.ok ()) :: work ++
          [told (.finished task outcome) (.error error)])
        (.error error)

theorem Closing.cons {past : List (Task × TaskOutcome)} {rest : List Task}
    {last : List (Event engineInterface)} (h : Closing past rest last result) (task : Task)
    (outcome : TaskOutcome) : Closing ((task, outcome) :: past) rest last (result.map (outcome :: ·)) := by
  cases h with
  | complete => exact .complete
  | withdrawn task rest answer => exact .withdrawn task rest answer
  | failed task rest error answer quiet => exact .failed task rest error answer quiet
  | unstarted task rest error => exact .unstarted task rest error
  | unfinished task rest outcome error quiet => exact .unfinished task rest outcome error quiet

theorem Rounds.closing (h : e.Rounds jobId tasks arena log result arena') :
    ∃ past rest earlier last, log = earlier ++ last ∧ tasks = past.map Prod.fst ++ rest ∧
      calls earlier = completed past ∧ Closing past rest last result := by
  induction h with
  | complete arena => exact ⟨[], [], [], [], rfl, rfl, rfl, .complete⟩
  | withdrawn task rest arena answer => exact ⟨[], _, [], _, rfl, rfl, rfl, .withdrawn task rest answer⟩
  | unstarted task rest arena error => exact ⟨[], _, [], _, rfl, rfl, rfl, .unstarted task rest error⟩
  | @failed task rest _ _ work error answer ran =>
      exact ⟨[], _, [], _, rfl, rfl, rfl,
        .failed task rest error answer (calls_of_quiet (quiet_runTask task _) ran)⟩
  | @unfinished task rest _ _ work outcome error ran =>
      exact ⟨[], _, [], _, rfl, rfl, rfl,
        .unfinished task rest outcome error (calls_of_quiet (quiet_runTask task _) ran)⟩
  | @finished task _ _ _ _ work _ outcome _ ran _ ih =>
      obtain ⟨past, rest, earlier, last, rfl, rfl, hcalls, closing⟩ := ih
      refine ⟨(task, outcome) :: past, rest,
        look false :: told (.started task) (.ok ()) :: work ++
          told (.finished task outcome) (.ok ()) :: earlier,
        last, by simp, rfl, ?_, closing.cons task outcome⟩
      have quiet := calls_of_quiet (quiet_runTask task _) ran
      simp [quiet, hcalls, completed]

/-! ### What a report of success rests on -/

/-- A report that a task finished comes after one that it was started, which was heard, and in between
its batch job was seen to have succeeded and was not created since. -/
def Earned (e : Engine) (jobId : String) (log : List (Event engineInterface)) : Prop :=
  ∀ before task outcome answer after, log = before ++ told (.finished task outcome) answer :: after →
    ∃ earlier work, before = earlier ++ told (.started task) (.ok ()) :: work ∧ calls work = [] ∧
      Since (fun x => ¬ e.Creates jobId task .batchJob x) (e.ShowsSucceeded jobId task) (traffic work)

theorem earned_of_unfinished (h : ∀ task outcome answer, (.finished task outcome, answer) ∉ calls log) :
    e.Earned jobId log := by
  intro before task outcome answer after hl
  exact absurd (by simp [hl]) (h task outcome answer)

theorem Earned.append {l l' : List (Event engineInterface)} (hl : e.Earned jobId l)
    (hl' : e.Earned jobId l') : e.Earned jobId (l ++ l') := by
  intro before task outcome answer after heq
  obtain ⟨rest, hsplit, -⟩ | ⟨rest, rfl, hsplit⟩ := append_eq_split heq
  · exact hl before task outcome answer rest hsplit
  · obtain ⟨earlier, work, rfl, earned⟩ := hl' rest task outcome answer after hsplit
    exact ⟨l ++ earlier, work, by simp, earned⟩

section Succeeding

variable {task : Task} {outcome : TaskOutcome} {work : List (Event engineInterface)}

theorem succeeded_of_ran (h : (e.runTask jobId task arena).Ran work (.ok outcome, arena')) :
    Since (fun x => ¬ e.Creates jobId task .batchJob x) (e.ShowsSucceeded jobId task) (traffic work) := by
  unfold runTask at h
  cases ht : arena.take task.seqNum task.dependsOn with
  | error cause =>
      rw [ht] at h
      cases (Script.ran_pure.1 h).2
  | ok taken =>
      obtain ⟨inputs, left⟩ := taken
      rw [ht] at h
      obtain ⟨log₁, ⟨carried, output⟩, log₂, rfl, h₁, h₂⟩ := Script.ran_bind.1 h
      obtain ⟨-, tv, tc, ti, tb, hl, stages⟩ := ran_execute rfl rfl rfl h₁
      obtain ⟨log₃, _, log₄, rfl, h₃, h₄⟩ := Script.ran_bind.1 h₂
      obtain ⟨log₅, _, log₆, rfl, h₅, h₆⟩ := Script.ran_bind.1 h₄
      cases carried with
      | error cause =>
          obtain ⟨log₇, _, log₈, rfl, -, h₈⟩ := Script.ran_bind.1 h₆
          cases (Script.ran_pure.1 h₈).2
      | ok carried =>
          have quiet : log₆ = [] := by
            cases hr : left.register output with
            | ok _ | error _ =>
                simp only [hr] at h₆
                exact (Script.ran_pure.1 h₆).1
          simp only [traffic_append, hl, quiet, List.append_nil]
          -- What comes after the batch job only deletes.
          refine ((stages.done ⟨carried, rfl⟩).append_left).append ?_
          intro x hx
          obtain hx | hx := List.mem_append.1 hx
          · exact ((ran_discard rfl h₃).1 x hx).not_posts _
          · obtain ⟨v, -, clears⟩ := (ran_discardAll h₅).1 x hx
            exact clears.not_posts _

theorem earned_round (ran : (e.runTask jobId task arena).Ran work (.ok outcome, arena'))
    (answer : Except EngineError Unit) :
    e.Earned jobId
      (look false :: told (.started task) (.ok ()) :: work ++ [told (.finished task outcome) answer]) := by
  have quiet := calls_of_quiet (quiet_runTask task arena) ran
  -- The last event of a round is its only report of an end.
  intro before task' outcome' answer' after heq
  obtain ⟨rest, hsplit, -⟩ | ⟨rest, rfl, hsplit⟩ := append_eq_split heq
  · have heard : (.finished task' outcome', answer') ∈ [(TaskEvent.started task, Except.ok ())] := by
      have calls_eq := congrArg calls hsplit
      simp only [calls_look, calls_told, calls_append, quiet] at calls_eq
      simp [calls_eq]
    simp at heard
  · cases rest with
    | nil =>
      cases hsplit
      exact ⟨[look false], work, by simp, quiet, succeeded_of_ran ran⟩
    | cons x rest => simp at hsplit

end Succeeding

theorem Rounds.earned (h : e.Rounds jobId tasks arena log result arena') : e.Earned jobId log := by
  induction h with
  | complete _ | withdrawn _ _ _ _ | unstarted _ _ _ _ => exact earned_of_unfinished (by simp)
  | @failed task _ _ _ work _ _ ran =>
      have quiet := calls_of_quiet (quiet_runTask task _) ran
      exact earned_of_unfinished (by simp [quiet])
  | unfinished _ error ran => exact earned_round ran _
  | finished ran _ ih =>
      rw [List.append_cons]
      exact (earned_round ran _).append ih

/-! ### Failures of the observer -/

/-- Tells of a failure. -/
def TellsFailure (op : EngineOp) : Prop := ∃ task error, op = .report (.failed task error)

theorem ignores_of_quiet {α : Type} {s : EngineScript α} (h : s.Asks Quiet) : s.Ignores TellsFailure := by
  refine (h.mono fun op quiet => ?_).ignores
  intro given
  obtain ⟨task, error, rfl⟩ := given
  exact quiet _ rfl

theorem ignores_report {event : TaskEvent} (h : ∀ task error, event ≠ .failed task error) :
    (report event).Ignores TellsFailure := by
  refine ⟨fun given => ?_, fun _ => trivial⟩
  obtain ⟨task, error, heq⟩ := given
  cases heq
  exact absurd rfl (h task error)

theorem ignores_runTasks (arena : Arena Resource) : (e.runTasks jobId tasks arena).Ignores TellsFailure := by
  induction tasks generalizing arena with
  | nil => trivial
  | cons task rest ih =>
      unfold runTasks
      refine (ignores_of_quiet (quiet_ofCluster _)).bind fun tripped => ?_
      cases tripped with
      | true => exact ⟨fun _ _ _ => rfl, fun _ => trivial⟩
      | false =>
          refine (ignores_report fun _ _ heq => by cases heq).bind fun started => ?_
          cases started with
          | error cause => trivial
          | ok _ =>
              refine (ignores_of_quiet (quiet_runTask task arena)).bind fun ran => ?_
              obtain ⟨ended, arena⟩ := ran
              cases ended with
              | error cause => exact ⟨fun _ _ _ => rfl, fun _ => trivial⟩
              | ok outcome =>
                  refine (ignores_report fun _ _ heq => by cases heq).bind fun finished => ?_
                  cases finished with
                  | error cause => trivial
                  | ok _ =>
                      refine (ih arena).bind fun later => ?_
                      obtain ⟨outcomes, arena⟩ := later
                      cases outcomes <;> trivial

theorem ignores_run : (e.run jobId tasks).Ignores TellsFailure := by
  unfold run
  dsimp only
  split
  · trivial
  · exact (ignores_runTasks _).bind fun _ => (ignores_of_quiet (quiet_discardAll _)).bind fun _ => trivial

/-! ### The protocol -/

/-- The task that is reported for the last time. -/
def closed? : TaskEvent × Except EngineError Unit → Option Nat
  | (.started _, _) => none
  | (.finished task _, _) | (.failed task _, _) => some task.seqNum

theorem closed_completed (past : List (Task × TaskOutcome)) :
    (completed past).filterMap closed? = past.map (·.1.seqNum) := by
  induction past with
  | nil => rfl
  | cons p past ih => exact congrArg (p.1.seqNum :: ·) ih

theorem Closing.closed {past : List (Task × TaskOutcome)} {rest : List Task}
    {last : List (Event engineInterface)} (h : Closing past rest last result) :
    ((calls last).filterMap closed?).Sublist (rest.map (·.seqNum)) := by
  cases h with
  | complete => exact List.Sublist.refl _
  | withdrawn _ _ _ | unstarted _ _ _ => simp [List.filterMap_cons, closed?]
  | failed _ _ _ _ quiet | unfinished _ _ _ _ quiet => simp [List.filterMap_cons, closed?, quiet]

/-- What the observer of a run of tasks hears. -/
structure Observed (e : Engine) (jobId : String) (tasks : List Task) (log : List (Event engineInterface))
    (result : Except EngineError (List TaskOutcome)) : Prop where
  order : (ordered tasks).Pairwise fun a b => a.seqNum < b.seqNum
  /-- Nothing is reported but what finished and that by which the run ends. -/
  heard : ∃ past rest earlier last cleanup, log = earlier ++ last ++ cleanup ∧
    ordered tasks = past.map Prod.fst ++ rest ∧ calls earlier = completed past ∧
    Closing past rest last result ∧ calls cleanup = []
  once : ((calls log).filterMap closed?).Nodup
  earned : e.Earned jobId log
  /-- Whatever the observer says to a failure, the run is the same. -/
  indifferent : ∀ before task error answer after,
    log = before ++ told (.failed task error) answer :: after →
    ∀ answer', (e.run jobId tasks).Ran (before ++ told (.failed task error) answer' :: after) result

/-- Whatever the cluster and the observer answer, a run that can be planned is observed by the
protocol. -/
theorem run_observed (e : Engine) (jobId : String) (tasks : List Task) {arena : Arena Resource}
    (planned : Arena.plan ((ordered tasks).map fun t => (t.seqNum, t.dependsOn)) = .ok arena)
    (h : (e.run jobId tasks).Ran log result) : e.Observed jobId tasks log result := by
  have ignores : (e.run jobId tasks).Ignores TellsFailure := ignores_run
  have indifferent := fun before task error answer after (hl : log = before ++
      told (.failed task error) answer :: after) answer' =>
    ignores.ran (hl ▸ h) ⟨task, error, rfl⟩ answer'
  unfold run at h
  dsimp only at h
  rw [planned] at h
  obtain ⟨log₁, ⟨ended, arena₁⟩, log₂, rfl, h₁, h₂⟩ := Script.ran_bind.1 h
  obtain ⟨log₃, _, log₄, rfl, h₃, h₄⟩ := Script.ran_bind.1 h₂
  obtain ⟨rfl, rfl⟩ := Script.ran_pure.1 h₄
  rw [List.append_nil] at indifferent ⊢
  have rounds := rounds_of_ran h₁
  have cleanup := calls_of_quiet (quiet_discardAll _) h₃
  have nums := (Arena.plan_ok planned).1
  rw [List.map_map] at nums
  have order : ((ordered tasks).map (·.seqNum)).Pairwise (· < ·) := by
    refine ((List.pairwise_map.2 (ordered_sorted tasks)).and nums).imp fun h => ?_
    exact Nat.lt_of_le_of_ne h.1 h.2
  obtain ⟨past, rest, earlier, last, rfl, htasks, hcalls, closing⟩ := rounds.closing
  exact {
    order := List.pairwise_map.1 order
    heard := ⟨past, rest, earlier, last, log₃, rfl, htasks, hcalls, closing, cleanup⟩
    once := by
      have closed := closing.closed.append_left (past.map (·.1.seqNum))
      have whole : past.map (·.1.seqNum) ++ rest.map (·.seqNum) = (ordered tasks).map (·.seqNum) := by
        simp [htasks]
      rw [whole] at closed
      simpa [hcalls, cleanup, closed_completed] using nums.sublist closed
    earned := rounds.earned.append (earned_of_unfinished (by simp [cleanup]))
    indifferent }

theorem run_observed_sample :
    ∃ (arena : Arena Resource) (log : List (Event engineInterface))
      (result : Except EngineError (List TaskOutcome)),
      Arena.plan ((ordered sampleTasks).map fun t => (t.seqNum, t.dependsOn)) = .ok arena ∧
      (sampleEngine.run "j" sampleTasks).Ran log result ∧ (calls log).length = 4 ∧
      sampleEngine.Observed "j" sampleTasks log result := by
  obtain ⟨arena, planned⟩ : ∃ arena : Arena Resource,
      Arena.plan ((ordered sampleTasks).map fun t => (t.seqNum, t.dependsOn)) = .ok arena := by
    rw [ordered_sample]
    exact ⟨_, rfl⟩
  have ran := Script.ran_play obliging 0 (sampleEngine.run "j" sampleTasks)
  have four : (calls ((sampleEngine.run "j" sampleTasks).play obliging 0).1).length = 4 := by
    rw [run, ordered_sample]
    decide +kernel
  exact ⟨arena, _, _, planned, ran, four, run_observed sampleEngine "j" sampleTasks planned ran⟩

end Engine
end ImageryJobs
