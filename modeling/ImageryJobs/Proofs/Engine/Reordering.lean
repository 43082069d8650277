import ImageryJobs.Proofs.Engine.PlanFaults
import ImageryJobs.Proofs.Engine.Tasks
import Mathlib.Order.Bounds.Basic

/-!
The order in which the tasks of a job are given does not matter. Tasks with different numbers are run in
the one order of their numbers; if a number is there twice nothing is asked at all, and the error names the
least such number, however the tasks are given.
-/

namespace ImageryJobs

/-- The run in surroundings that answer by all that has happened: the log, after what is past, and the
value. -/
def Script.respond {I : Interface} {α : Type} (answer : List (Event I) → (op : I.Op) → I.Answer op) :
    List (Event I) → Script I α → List (Event I) × α
  | past, .done value => (past, value)
  | past, .ask op next =>
      respond answer (past ++ [⟨op, answer past op⟩]) (next (answer past op))

/-- Of tasks in the order of their numbers, the least number that is there twice is the one that is refused. -/
theorem Arena.plan_of_repeated {ρ : Type} {tasks : List (Nat × List Nat)}
    (order : (tasks.map Prod.fst).Pairwise (· ≤ ·)) (repeated : ¬ (tasks.map Prod.fst).Nodup) :
    ∃ n, IsLeast {m | 2 ≤ (tasks.map Prod.fst).count m} n ∧
      (plan tasks : Except VolumeError (Arena ρ)) = .error (.duplicateTask n) := by
  cases reserved : (reserve (tasks.map Prod.fst) : Except VolumeError (Dict Nat (Slot ρ))) with
  | ok slots => exact absurd (reserve_ok reserved).1 repeated
  | error cause =>
      obtain ⟨before, n, after, split, distinct, -, rfl⟩ := reserve_error reserved
      have refused : (plan tasks : Except VolumeError (Arena ρ)) = .error (.duplicateTask n) := by
        rw [plan, reserved]
        rfl
      refine ⟨n, ⟨trueOf_of_plan refused, fun m twice => ?_⟩, refused⟩
      -- A smaller number stands before `n` only, where no number is repeated.
      by_contra smaller
      rw [split] at order
      have later : ∀ k ∈ n :: after, n ≤ k := by
        have tail := (List.pairwise_append.1 order).2.1
        exact List.forall_mem_cons.2 ⟨Nat.le_refl n, (List.pairwise_cons.1 tail).1⟩
      have absent : (n :: after).count m = 0 :=
        List.count_eq_zero.2 fun hm => smaller (later m hm)
      have once := List.nodup_iff_count_le_one.1 distinct m
      have twice : 2 ≤ (tasks.map Prod.fst).count m := twice
      rw [split, List.count_append, absent] at twice
      omega

namespace Engine

variable {tasks tasks' : List Task}

/-- Tasks with different numbers have one order. -/
theorem ordered_congr (same : tasks.Perm tasks') (distinct : (tasks.map (·.seqNum)).Nodup) :
    ordered tasks = ordered tasks' := by
  have perm := (ordered_perm tasks).trans (same.trans (ordered_perm tasks').symm)
  refine List.Perm.eq_of_pairwise (fun a b ha hb hab hba => ?_) (ordered_sorted tasks)
    (ordered_sorted tasks') perm
  have ha := (ordered_perm tasks).mem_iff.1 ha
  have hb := same.mem_iff.2 ((ordered_perm tasks').mem_iff.1 hb)
  exact List.inj_on_of_nodup_map distinct ha hb (Nat.le_antisymm hab hba)

/-- Where a number is there twice, the run is over before it has asked anything. -/
theorem run_of_repeated (e : Engine) (jobId : String) (repeated : ¬ (tasks.map (·.seqNum)).Nodup) :
    ∃ n, IsLeast {m | 2 ≤ (tasks.map (·.seqNum)).count m} n ∧
      e.run jobId tasks = .done (.error (.volume (.duplicateTask n))) := by
  have numbers : ((ordered tasks).map fun t => (t.seqNum, t.dependsOn)).map Prod.fst =
      (ordered tasks).map (·.seqNum) := List.map_map
  have perm := (ordered_perm tasks).map (·.seqNum)
  have order := List.pairwise_map.2 (ordered_sorted tasks)
  obtain ⟨n, least, refused⟩ := Arena.plan_of_repeated (ρ := Resource) (numbers ▸ order)
    (numbers ▸ mt perm.nodup_iff.1 repeated)
  simp only [numbers, perm.count_eq] at least
  refine ⟨n, least, ?_⟩
  rw [run]
  dsimp only
  rw [refused]
  rfl

/-- However the tasks of a job are ordered, the same is asked of the cluster, the clock and the observer
in the same order, whatever they make of what has happened, and the run ends in the same way. If a number
is there twice, nothing is asked, and the error is about the least of these numbers. -/
theorem run_of_perm (e : Engine) (jobId : String) (same : tasks.Perm tasks')
    (answer : List (Event engineInterface) → (op : EngineOp) → engineInterface.Answer op) :
    (e.run jobId tasks).respond answer [] = (e.run jobId tasks').respond answer [] ∧
    (¬ (tasks.map (·.seqNum)).Nodup →
      ∃ n, IsLeast {m | 2 ≤ (tasks.map (·.seqNum)).count m} n ∧
        (e.run jobId tasks).respond answer [] = ([], .error (.volume (.duplicateTask n))) ∧
        (e.run jobId tasks').respond answer [] = ([], .error (.volume (.duplicateTask n)))) := by
  have numbers := same.map (·.seqNum)
  by_cases distinct : (tasks.map (·.seqNum)).Nodup
  · refine ⟨?_, fun repeated => absurd distinct repeated⟩
    rw [run, run, ordered_congr same distinct]
  · obtain ⟨n, least, ended⟩ := run_of_repeated e jobId distinct
    obtain ⟨n', least', ended'⟩ :=
      run_of_repeated e jobId (mt numbers.nodup_iff.2 distinct)
    simp only [← numbers.count_eq] at least'
    obtain rfl := least.unique least'
    rw [ended, ended']
    exact ⟨rfl, fun _ => ⟨n, least, rfl, rfl⟩⟩

/-- The two tasks of the sample in the other order, and four tasks that have two numbers twice. -/
theorem run_of_perm_sample :
    let answer := fun past => obliging (past : List (Event engineInterface)).length
    let named (n : Nat) : Task := .ofSpec "a" "j" ⟨n, "p", ∅, []⟩
    sampleTasks.reverse.Perm sampleTasks ∧
    (sampleEngine.run "j" sampleTasks.reverse).respond answer [] =
      (sampleEngine.run "j" sampleTasks).respond answer [] ∧
    [named 7, named 2, named 7, named 2].Perm [named 2, named 7, named 2, named 7] ∧
    (sampleEngine.run "j" [named 2, named 7, named 2, named 7]).respond answer [] =
      ([], .error (.volume (.duplicateTask 2))) := by
  intro answer named
  have swapped : [named 7, named 2, named 7, named 2].Perm [named 2, named 7, named 2, named 7] :=
    (List.Perm.swap ..).trans (((List.Perm.swap ..).cons _).cons _)
  refine ⟨List.reverse_perm _, (run_of_perm sampleEngine "j" (List.reverse_perm _) answer).1, swapped, ?_⟩
  obtain ⟨n, least, -, ended⟩ := (run_of_perm sampleEngine "j" swapped answer).2 (by decide)
  have two : IsLeast {m | 2 ≤ ([named 7, named 2, named 7, named 2].map (·.seqNum)).count m} 2 := by
    refine ⟨by decide, fun m twice => ?_⟩
    by_contra smaller
    have : m = 0 ∨ m = 1 := by omega
    obtain rfl | rfl := this <;> exact absurd twice (by decide)
  rwa [least.unique two] at ended

end Engine
end ImageryJobs
