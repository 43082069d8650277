import ImageryJobs.Proofs.Engine.Contracts
import ImageryJobs.Proofs.Simulation.Answers

/-!
Runs on a simulated cluster. The cluster answers every request, and between two requests anything
may be arranged; in an undisturbed run nothing is arranged, nobody cancels and every report is taken,
so that the run is determined by the cluster that it starts with.
-/

namespace ImageryJobs.Simulation

/-- What was asked and answered so far, and the cluster. -/
abbrev Situation := List (Event engineInterface) × SimulatedCluster

/-- What an event does to a cluster. Anything may be arranged at any time. -/
def Reacts (c : SimulatedCluster) : Event engineInterface → SimulatedCluster → Prop
  | ⟨.cluster (.send request), reply⟩, c' =>
      ∃ c₀, SameContents c c₀ ∧ reply = (c₀.answer request).1 ∧ c' = (c₀.answer request).2
  | ⟨.cluster (.pause _), _⟩, c' | ⟨.report _, _⟩, c' => SameContents c c'

/-- The cluster gave the answers of a log. -/
def Answers : SimulatedCluster → List (Event engineInterface) → SimulatedCluster → Prop :=
  Rules.Path ⟨fun _ _ => True, Reacts⟩

/-- Clusters that can come about. -/
inductive Reached (ns : String) : SimulatedCluster → Prop where
  | empty (looks : Nat) : Reached ns (.empty ns looks)
  | arranged {c c' : SimulatedCluster} (h : Reached ns c) (same : SameContents c c') : Reached ns c'
  | inserted {c : SimulatedCluster} (h : Reached ns c) (kind : ResourceKind) (document : Json) :
      Reached ns (c.insertObject kind document)
  | answered {c : SimulatedCluster} (h : Reached ns c) (request : Request) :
      Reached ns (c.answer request).2

theorem Answered.ns {c c' : SimulatedCluster} {r : Request} {reply : Reply}
    (h : Answered c r reply c') : c'.ns = c.ns := by
  cases h with
  | refused same | told same | listed _ _ _ same => exact same.ns
  | created _ _ _ _ _ _ _ _ _ _ ns | removed _ _ _ _ ns | erased _ _ _ ns => exact ns
  | observed kind name _ _ _ _ _ same => exact (SimulatedCluster.ns_observe _ _ _).trans same.ns

theorem Reached.sound {ns : String} {c : SimulatedCluster} (h : Reached ns c) :
    c.ns = ns ∧ PodsSound c := by
  induction h with
  | empty looks => exact ⟨rfl, nofun⟩
  | arranged _ same ih =>
      refine ⟨same.ns.trans ih.1, fun key pod hp => ?_⟩
      rw [same.pods] at hp
      exact ih.2 key pod hp
  | inserted _ kind document ih => exact ih
  | @answered c _ request ih =>
      have h := Simulation.answered (r := request) (.refl c)
      exact ⟨h.ns.trans ih.1, h.podsSound ih.2⟩

/-! ### Undisturbed runs -/

/-- The answer of a cluster where nothing is cancelled and every report is taken. -/
def undisturbed : (op : EngineOp) → SimulatedCluster → engineInterface.Answer op × SimulatedCluster
  | .cluster (.send request), c => c.answer request
  | .cluster (.pause _), c => (false, c)
  | .report _, c => (.ok (), c)

variable {α : Type}

/-- The undisturbed run of a script: its log, its value, and the cluster afterwards. -/
def runOn : EngineScript α → SimulatedCluster → List (Event engineInterface) × α × SimulatedCluster
  | .done value, c => ([], value, c)
  | .ask op next, c =>
      let (answer, c) := undisturbed op c
      let (log, value, c) := runOn (next answer) c
      (⟨op, answer⟩ :: log, value, c)

theorem ran_runOn (s : EngineScript α) (c : SimulatedCluster) :
    s.Ran (runOn s c).1 (runOn s c).2.1 := by
  induction s generalizing c with
  | done value => exact .stop _
  | ask op next ih => exact .answered (ih (undisturbed op c).1 (undisturbed op c).2)

theorem reacts_undisturbed (op : EngineOp) (c : SimulatedCluster) :
    Reacts c ⟨op, (undisturbed op c).1⟩ (undisturbed op c).2 := by
  cases op with
  | report event => exact .refl c
  | cluster op =>
      cases op with
      | pause span => exact .refl c
      | send request => exact ⟨c, .refl c, rfl, rfl⟩

theorem answers_runOn (s : EngineScript α) (c : SimulatedCluster) :
    Answers c (runOn s c).1 (runOn s c).2.2 := by
  induction s generalizing c with
  | done value => exact .nil c
  | ask op next ih =>
      exact .cons (reacts_undisturbed op c) (ih (undisturbed op c).1 (undisturbed op c).2)

theorem runOn_bind {β : Type} (s : EngineScript α) (f : α → EngineScript β) (c : SimulatedCluster) :
    runOn (s >>= f) c = ((runOn s c).1 ++ (runOn (f (runOn s c).2.1) (runOn s c).2.2).1,
      (runOn (f (runOn s c).2.1) (runOn s c).2.2).2) := by
  induction s generalizing c with
  | done value => rfl
  | ask op next ih =>
      have rest := ih (undisturbed op c).1 (undisturbed op c).2
      change (⟨op, (undisturbed op c).1⟩ :: (runOn (next (undisturbed op c).1 >>= f) (undisturbed op c).2).1,
        (runOn (next (undisturbed op c).1 >>= f) (undisturbed op c).2).2) = _
      rw [rest]
      rfl

/-- The rules of undisturbed runs: everything may be asked, and there is one answer. -/
def course : Rules engineInterface Situation :=
  ⟨fun _ _ => True, fun w event w' =>
    w'.1 = w.1 ++ [event] ∧ undisturbed event.op w.2 = (event.answer, w'.2)⟩

/-- A contract under these rules holds at the end of the undisturbed run. -/
theorem runOn_of_meets {s : EngineScript α} {w : Situation} {post : α → Situation → Prop}
    (h : s.Meets course w post) : post (runOn s w.2).2.1 (w.1 ++ (runOn s w.2).1, (runOn s w.2).2.2) := by
  induction s generalizing w with
  | done value =>
      rw [runOn, List.append_nil]
      exact h
  | ask op next ih =>
      let event : Event engineInterface := ⟨op, (undisturbed op w.2).1⟩
      have rest := ih _ (h.2 event.answer (w.1 ++ [event], (undisturbed op w.2).2) ⟨rfl, rfl⟩)
      rw [List.append_assoc] at rest
      exact rest

end ImageryJobs.Simulation
