import ImageryJobs.Engine.Engine
import ImageryJobs.Proofs.Runs

/-!
What observers are told of a run, at every moment of it: the tasks that were finished, in order, and
then at most one that was begun or that failed.
-/

namespace ImageryJobs

namespace Script

variable {I : Interface} {α β ε : Type}

/-- A bind is stuck in its first part, or goes on with its value. -/
theorem follows_bind_cases {s : Script I α} {f : α → Script I β} {log : List (Event I)}
    {rest : Script I β} (h : (s >>= f).Follows log rest) :
    (∃ t, s.Follows log t ∧ rest.isDone = false) ∨
      ∃ log₁ value log₂, log = log₁ ++ log₂ ∧ s.Ran log₁ value ∧ (f value).Follows log₂ rest := by
  obtain ⟨t, ht, rfl⟩ | h := follows_bind.1 h
  · cases t with
    | done value => exact .inr ⟨log, value, [], by simp, ht, .stop _⟩
    | ask op next => exact .inl ⟨_, ht, rfl⟩
  · exact .inr h

theorem Asks.run_bind {P : I.Op → Prop} {m : ExceptT ε (Script I) α}
    {f : α → ExceptT ε (Script I) β} (hm : m.run.Asks P) (hf : ∀ value, (f value).run.Asks P) :
    (m >>= f).run.Asks P := by
  rw [ExceptT.run_bind]
  refine Asks.bind hm fun result => ?_
  cases result with
  | ok value => exact hf value
  | error e => trivial

end Script

namespace Engine

open Script EngineScript

variable {e : Engine} {jobId : String} {α : Type}

/-- Nothing is reported. -/
def Quiet (op : EngineOp) : Prop := ∀ event, op ≠ .report event

theorem quiet_ofCluster (s : ClusterScript α) : (ofCluster s).Asks Quiet := by
  induction s with
  | done value => trivial
  | ask op next ih =>
      have quiet : Quiet (.cluster op) := fun event heq => by cases heq
      exact ⟨quiet, fun answer => ih answer⟩

theorem quiet_discard (r : Resource) : (e.discard r).Asks Quiet :=
  (quiet_ofCluster _).bind fun _ => trivial

theorem quiet_discardAll (vs : List (HeldVolume Resource)) :
    (vs.forM fun v => e.discard v.resource).Asks Quiet := by
  induction vs with
  | nil => trivial
  | cons v vs ih => exact (quiet_discard v.resource).bind fun _ => ih

theorem quiet_buildImage (task : Task) : (e.buildImage jobId task).run.Asks Quiet := by
  rw [buildImage]
  split
  · trivial
  · exact quiet_ofCluster _

theorem quiet_execute (task : Task) (output : HeldVolume Resource) (config : Resource)
    (inputs : List (HeldVolume Resource)) :
    (e.execute jobId task output config inputs).Asks Quiet := by
  rw [execute]
  refine (quiet_ofCluster _).bind fun made => Asks.bind ?_ fun _ => trivial
  refine Asks.run_bind trivial fun _ => Asks.run_bind ?_ fun created => ?_
  · exact (quiet_ofCluster _).bind fun _ => trivial
  · refine Asks.run_bind trivial fun _ => Asks.run_bind (quiet_buildImage task) fun built => ?_
    exact Asks.run_bind (quiet_ofCluster _) fun _ => trivial

theorem quiet_runTask (task : Task) (arena : Arena Resource) :
    (e.runTask jobId task arena).Asks Quiet := by
  rw [runTask]
  split
  · trivial
  · refine (quiet_execute _ _ _ _).bind fun (result, output) => ?_
    refine (quiet_discard _).bind fun _ => (quiet_discardAll _).bind fun _ => ?_
    split
    · split <;> trivial
    · exact (quiet_discard _).bind fun _ => trivial

/-! ### Reports -/

def reports (log : List (Event engineInterface)) : List TaskEvent :=
  log.filterMap fun x => match x.op with
    | .report event => some event
    | .cluster _ => none

@[simp] theorem reports_append (l l' : List (Event engineInterface)) :
    reports (l ++ l') = reports l ++ reports l' := List.filterMap_append

theorem reports_of_quiet {s t : EngineScript α} {log : List (Event engineInterface)}
    (h : s.Asks Quiet) (hf : s.Follows log t) : reports log = [] := by
  refine List.filterMap_eq_nil_iff.2 fun x hx => ?_
  have quiet := h.follows hf x hx
  obtain ⟨op, answer⟩ := x
  cases op with
  | cluster op => rfl
  | report event => exact absurd rfl (quiet event)

/-- What the reports of tasks that run in this order may be, and what they tell of the end: that all
tasks finished, or why one did not. -/
inductive Reported : List Task → List TaskEvent → Option (Except EngineError Unit) → Prop where
  | complete : Reported [] [] (some (.ok ()))
  | waiting (task : Task) (rest : List Task) : Reported (task :: rest) [] none
  | begun (task : Task) (rest : List Task) : Reported (task :: rest) [.started task] none
  | withdrawn (task : Task) (rest : List Task) (error : EngineError) :
      Reported (task :: rest) [.failed task error] (some (.error error))
  | failed (task : Task) (rest : List Task) (error : EngineError) :
      Reported (task :: rest) [.started task, .failed task error] (some (.error error))
  | finished (task : Task) {rest : List Task} (outcome : TaskOutcome) {events : List TaskEvent}
      {told : Option (Except EngineError Unit)} (h : Reported rest events told) :
      Reported (task :: rest) (.started task :: .finished task outcome :: events) told

/-- No observer failed. -/
def Heard (log : List (Event engineInterface)) : Prop :=
  ∀ event answer, ⟨.report event, answer⟩ ∈ log → answer = .ok ()

theorem heard_nil : Heard [] := fun _ _ h => absurd h List.not_mem_nil

theorem Heard.cluster {op : ClusterOp} {answer : op.Answer} {log : List (Event engineInterface)}
    (h : Heard log) : Heard (⟨.cluster op, answer⟩ :: log) := by
  intro event answer' hm
  cases hm with
  | tail _ hm => exact h event answer' hm

theorem Heard.report {event : TaskEvent} {log : List (Event engineInterface)} (h : Heard log) :
    Heard (⟨.report event, .ok ()⟩ :: log) := by
  intro event' answer hm
  cases hm with
  | head => rfl
  | tail _ hm => exact h event' answer hm

/-- A part of a run that reports nothing. -/
theorem follows_quiet_bind {β : Type} {s : EngineScript α} {f : α → EngineScript β}
    {log : List (Event engineInterface)} {rest : EngineScript β} (quiet : s.Asks Quiet)
    (h : (s >>= f).Follows log rest) (heard : Heard log) :
    (reports log = [] ∧ rest.isDone = false) ∨ ∃ value later, Heard later ∧
      reports log = reports later ∧ (f value).Follows later rest := by
  obtain ⟨t, ht, going⟩ | ⟨log₁, value, later, rfl, h₁, h₂⟩ := follows_bind_cases h
  · exact .inl ⟨reports_of_quiet quiet ht, going⟩
  · refine .inr ⟨value, later, fun event answer hm => heard event answer (by simp [hm]), ?_, h₂⟩
    rw [reports_append, reports_of_quiet quiet h₁, List.nil_append]

theorem follows_report_bind {event : TaskEvent} {f : Except EngineError Unit → EngineScript α}
    {log : List (Event engineInterface)} {rest : EngineScript α}
    (h : (report event >>= f).Follows log rest) (heard : Heard log) :
    (log = [] ∧ rest.isDone = false) ∨ ∃ later, Heard later ∧
      reports log = event :: reports later ∧ (f (.ok ())).Follows later rest := by
  cases h with
  | stop => exact .inl ⟨rfl, rfl⟩
  | @answered _ _ answer later _ h =>
      have hanswer : answer = .ok () := heard event answer (by simp)
      rw [hanswer] at h
      exact .inr ⟨later, fun ev a hm => heard ev a (by simp [hm]), rfl, h⟩

/-- What a run of tasks ends with is what its reports tell. -/
def Tells (rest : EngineScript (Except EngineError (List TaskOutcome) × Arena Resource))
    (told : Option (Except EngineError Unit)) : Prop :=
  ∀ result arena, rest = .done (result, arena) → told = some (result.map fun _ => ())

theorem tells_of_going
    {rest : EngineScript (Except EngineError (List TaskOutcome) × Arena Resource)}
    (going : rest.isDone = false) (told : Option (Except EngineError Unit)) : Tells rest told := by
  intro result arena heq
  rw [heq] at going
  cases going

theorem tells_done (result : Except EngineError (List TaskOutcome)) (arena : Arena Resource) :
    Tells (.done (result, arena)) (some (result.map fun _ => ())) := by
  intro result' arena' heq
  cases heq
  rfl

theorem follows_runTasks {tasks : List Task} {arena : Arena Resource}
    {log : List (Event engineInterface)}
    {rest : EngineScript (Except EngineError (List TaskOutcome) × Arena Resource)}
    (h : (e.runTasks jobId tasks arena).Follows log rest) (heard : Heard log) :
    ∃ told, Reported tasks (reports log) told ∧ Tells rest told := by
  induction tasks generalizing arena log rest with
  | nil =>
      obtain ⟨rfl, rfl⟩ := follows_done.1 h
      exact ⟨_, .complete, tells_done _ _⟩
  | cons task tasks ih =>
      unfold runTasks at h
      obtain ⟨hnil, going⟩ | ⟨tripped, log₁, heard₁, hlog, h₁⟩ :=
        follows_quiet_bind (quiet_ofCluster _) h heard
      · rw [hnil]
        exact ⟨none, .waiting task tasks, tells_of_going going _⟩
      rw [hlog]
      cases tripped with
      | true =>
          obtain ⟨rfl, going⟩ | ⟨last, -, hlast, h₂⟩ := follows_report_bind h₁ heard₁
          · exact ⟨none, .waiting task tasks, tells_of_going going _⟩
          obtain ⟨rfl, rfl⟩ := follows_done.1 h₂
          rw [hlast]
          exact ⟨_, .withdrawn task tasks _, tells_done _ _⟩
      | false =>
          obtain ⟨rfl, going⟩ | ⟨log₂, heard₂, hbegun, h₂⟩ := follows_report_bind h₁ heard₁
          · exact ⟨none, .waiting task tasks, tells_of_going going _⟩
          rw [hbegun]
          obtain ⟨hnil, going⟩ | ⟨⟨ended, arena₁⟩, log₃, heard₃, hran, h₃⟩ :=
            follows_quiet_bind (quiet_runTask task arena) h₂ heard₂
          · rw [hnil]
            exact ⟨none, .begun task tasks, tells_of_going going _⟩
          rw [hran]
          cases ended with
          | error cause =>
              obtain ⟨rfl, going⟩ | ⟨last, -, hlast, h₄⟩ := follows_report_bind h₃ heard₃
              · exact ⟨none, .begun task tasks, tells_of_going going _⟩
              obtain ⟨rfl, rfl⟩ := follows_done.1 h₄
              rw [hlast]
              exact ⟨_, .failed task tasks cause, tells_done _ _⟩
          | ok outcome =>
              obtain ⟨rfl, going⟩ | ⟨log₄, heard₄, hfinished, h₄⟩ := follows_report_bind h₃ heard₃
              · exact ⟨none, .begun task tasks, tells_of_going going _⟩
              rw [hfinished]
              obtain ⟨t, ht, going⟩ | ⟨log₅, ⟨outcomes, arena₂⟩, log₆, rfl, h₅, h₆⟩ :=
                follows_bind_cases h₄
              · obtain ⟨told, reported, -⟩ := ih ht heard₄
                exact ⟨told, .finished task outcome reported, tells_of_going going _⟩
              have heard₅ : Heard log₅ := fun event answer hm => heard₄ event answer (by simp [hm])
              obtain ⟨told, reported, tells⟩ := ih h₅ heard₅
              obtain rfl := tells outcomes arena₂ rfl
              cases outcomes with
              | ok _ | error _ =>
                  obtain ⟨rfl, rfl⟩ := follows_done.1 h₆
                  rw [List.append_nil]
                  exact ⟨_, .finished task outcome reported, tells_done _ _⟩

/-- While a run that can be planned is under way its reports are those of its tasks in their order,
and what it ends with is what they tell. -/
theorem follows_run {tasks : List Task} {arena : Arena Resource}
    (planned : Arena.plan ((ordered tasks).map fun t => (t.seqNum, t.dependsOn)) = .ok arena)
    {log : List (Event engineInterface)}
    {rest : EngineScript (Except EngineError (List TaskOutcome))}
    (h : (e.run jobId tasks).Follows log rest) (heard : Heard log) :
    ∃ told, Reported (ordered tasks) (reports log) told ∧
      ∀ result, rest = .done result → told = some (result.map fun _ => ()) := by
  unfold run at h
  dsimp only at h
  rw [planned] at h
  obtain ⟨t, ht, going⟩ | ⟨log₁, ⟨ended, arena₁⟩, log₂, rfl, h₁, h₂⟩ := follows_bind_cases h
  · obtain ⟨told, reported, -⟩ := follows_runTasks ht heard
    refine ⟨told, reported, fun result heq => ?_⟩
    rw [heq] at going
    cases going
  · have heard₁ : Heard log₁ := fun event answer hm => heard event answer (by simp [hm])
    obtain ⟨told, reported, tells⟩ := follows_runTasks h₁ heard₁
    have quiet : ((arena₁.drain.1.forM fun v => e.discard v.resource) >>= fun _ =>
        (pure ended : EngineScript _)).Asks Quiet :=
      (quiet_discardAll _).bind fun _ => trivial
    refine ⟨told, ?_, fun result heq => ?_⟩
    · rwa [reports_append, reports_of_quiet quiet h₂, List.append_nil]
    · obtain ⟨t, -, going⟩ | ⟨log₃, _, log₄, rfl, -, h₄⟩ := follows_bind_cases h₂
      · rw [heq] at going
        cases going
      · obtain ⟨rfl, hrest⟩ := follows_done.1 h₄
        cases heq.symm.trans hrest
        exact tells ended arena₁ rfl

end Engine
end ImageryJobs
