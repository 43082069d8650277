import ImageryJobs.Proofs.Engine.Stages

/-!
What a run of tasks is made of: a round for each task, up to the first that does not finish. Every
round looks first whether the work is cancelled.
-/

namespace ImageryJobs
namespace Engine

open EngineScript

theorem ordered_perm (tasks : List Task) : (ordered tasks).Perm tasks := List.mergeSort_perm _ _

theorem ordered_sorted (tasks : List Task) :
    (ordered tasks).Pairwise fun a b => a.seqNum ≤ b.seqNum := by
  refine (List.pairwise_mergeSort (fun a b c hab hbc => ?_) (fun a b => ?_) tasks).imp of_decide_eq_true
  · exact decide_eq_true (Nat.le_trans (of_decide_eq_true hab) (of_decide_eq_true hbc))
  · simpa using Nat.le_total a.seqNum b.seqNum

/-- The look of a round at the cancellation, and what it saw. -/
def look (tripped : Bool) : Event engineInterface := ⟨.cluster (.pause 0), tripped⟩

/-- A report, and what the observer answered. -/
def told (event : TaskEvent) (answer : Except EngineError Unit) : Event engineInterface :=
  ⟨.report event, answer⟩

/-- The log of a run of tasks, what the run ends with and the arena that it leaves. -/
inductive Rounds (e : Engine) (jobId : String) : List Task → Arena Resource →
    List (Event engineInterface) → Except EngineError (List TaskOutcome) → Arena Resource → Prop where
  | complete (arena : Arena Resource) : Rounds e jobId [] arena [] (.ok []) arena
  | withdrawn (task : Task) (rest : List Task) (arena : Arena Resource)
      (answer : Except EngineError Unit) :
      Rounds e jobId (task :: rest) arena
        [look true, told (.failed task (.cancelled task.seqNum task.processId)) answer]
        (.error (.cancelled task.seqNum task.processId)) arena
  | unstarted (task : Task) (rest : List Task) (arena : Arena Resource) (error : EngineError) :
      Rounds e jobId (task :: rest) arena [look false, told (.started task) (.error error)]
        (.error error) arena
  | failed {task : Task} (rest : List Task) {arena arena' : Arena Resource}
      {work : List (Event engineInterface)} {error : EngineError} (answer : Except EngineError Unit)
      (ran : (e.runTask jobId task arena).Ran work (.error error, arena')) :
      Rounds e jobId (task :: rest) arena
        (look false :: told (.started task) (.ok ()) :: work ++ [told (.failed task error) answer])
        (.error error) arena'
  | unfinished {task : Task} (rest : List Task) {arena arena' : Arena Resource}
      {work : List (Event engineInterface)} {outcome : TaskOutcome} (error : EngineError)
      (ran : (e.runTask jobId task arena).Ran work (.ok outcome, arena')) :
      Rounds e jobId (task :: rest) arena
        (look false :: told (.started task) (.ok ()) :: work ++
          [told (.finished task outcome) (.error error)])
        (.error error) arena'
  | finished {task : Task} {rest : List Task} {arena arena' arena'' : Arena Resource}
      {work later : List (Event engineInterface)} {outcome : TaskOutcome}
      {result : Except EngineError (List TaskOutcome)}
      (ran : (e.runTask jobId task arena).Ran work (.ok outcome, arena'))
      (rounds : Rounds e jobId rest arena' later result arena'') :
      Rounds e jobId (task :: rest) arena
        (look false :: told (.started task) (.ok ()) :: work ++
          told (.finished task outcome) (.ok ()) :: later)
        (result.map (outcome :: ·)) arena''

variable {e : Engine} {jobId : String}

theorem ran_look {log : List (Event engineInterface)} {tripped : Bool}
    (h : (ofCluster (ClusterScript.pause 0)).Ran log tripped) : log = [look tripped] := by
  obtain ⟨inner, hi, rfl⟩ := ran_ofCluster.1 h
  rw [Script.ran_perform.1 hi]
  rfl

theorem ran_told {event : TaskEvent} {log : List (Event engineInterface)}
    {answer : Except EngineError Unit} (h : (report event).Ran log answer) :
    log = [told event answer] := Script.ran_perform.1 h

theorem rounds_of_ran {tasks : List Task} {arena arena' : Arena Resource}
    {log : List (Event engineInterface)} {result : Except EngineError (List TaskOutcome)}
    (h : (e.runTasks jobId tasks arena).Ran log (result, arena')) :
    e.Rounds jobId tasks arena log result arena' := by
  induction tasks generalizing arena arena' log result with
  | nil =>
      obtain ⟨rfl, heq⟩ := Script.ran_pure.1 h
      cases heq
      exact .complete _
  | cons task rest ih =>
      -- The look at the token, the start, the task and its end, in the order in which they are asked.
      unfold runTasks at h
      obtain ⟨log₁, tripped, log₂, rfl, h₁, h₂⟩ := Script.ran_bind.1 h
      obtain rfl := ran_look h₁
      cases tripped with
      | true =>
          obtain ⟨log₃, answer, log₄, rfl, h₃, h₄⟩ := Script.ran_bind.1 h₂
          obtain rfl := ran_told h₃
          obtain ⟨rfl, heq⟩ := Script.ran_pure.1 h₄
          cases heq
          exact .withdrawn task rest _ answer
      | false =>
          obtain ⟨log₃, started, log₄, rfl, h₃, h₄⟩ := Script.ran_bind.1 h₂
          obtain rfl := ran_told h₃
          cases started with
          | error cause =>
              obtain ⟨rfl, heq⟩ := Script.ran_pure.1 h₄
              cases heq
              exact .unstarted task rest _ cause
          | ok _ =>
              obtain ⟨work, ⟨ended, arena₁⟩, log₆, rfl, ran, h₆⟩ := Script.ran_bind.1 h₄
              cases ended with
              | error cause =>
                  obtain ⟨log₇, answer, log₈, rfl, h₇, h₈⟩ := Script.ran_bind.1 h₆
                  obtain rfl := ran_told h₇
                  obtain ⟨rfl, heq⟩ := Script.ran_pure.1 h₈
                  cases heq
                  exact .failed rest answer ran
              | ok outcome =>
                  obtain ⟨log₇, finished, log₈, rfl, h₇, h₈⟩ := Script.ran_bind.1 h₆
                  obtain rfl := ran_told h₇
                  cases finished with
                  | error cause =>
                      obtain ⟨rfl, heq⟩ := Script.ran_pure.1 h₈
                      cases heq
                      exact .unfinished rest cause ran
                  | ok _ =>
                      obtain ⟨later, ⟨outcomes, arena₂⟩, log₁₀, rfl, h₉, h₁₀⟩ := Script.ran_bind.1 h₈
                      have rounds := ih h₉
                      cases outcomes with
                      | ok _ | error _ =>
                          obtain ⟨rfl, heq⟩ := Script.ran_pure.1 h₁₀
                          cases heq
                          rw [List.append_nil]
                          exact .finished ran rounds

@[simp] theorem traffic_look (tripped : Bool) (log : List (Event engineInterface)) :
    traffic (look tripped :: log) = traffic log := rfl

@[simp] theorem traffic_told (event : TaskEvent) (answer : Except EngineError Unit)
    (log : List (Event engineInterface)) : traffic (told event answer :: log) = traffic log := rfl

end Engine
end ImageryJobs
