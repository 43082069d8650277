import ImageryJobs.Graph.Registry
import ImageryJobs.Proofs.Failing
import ImageryJobs.Proofs.Members

/-!
Registries are made of declarations: a process stands under the id that it is declared with, and the
pattern of an argument is read from the text that it is declared with.
-/

namespace ImageryJobs

/-- The pattern that an argument is declared with. -/
def Parameter.read? (parameter : Parameter) : Option Pattern := parameter.pattern.bind Pattern.read?

namespace Process

variable {spec : ProcessSpec} {p : Process}

theorem spec_of_ofSpec (h : ofSpec spec = .ok p) : p.spec = spec := by
  obtain ⟨patterns, -, heq⟩ := bind_eq_ok.1 h
  rw [← Except.ok.inj heq]

/-- The patterns of a process are those of its declaration. -/
theorem pattern?_of_ofSpec (h : ofSpec spec = .ok p) (name : String) :
    p.pattern? name = (spec.parameters.get? name).bind Parameter.read? := by
  obtain ⟨patterns, hpatterns, heq⟩ := bind_eq_ok.1 h
  cases heq
  have listed : patterns = spec.parameters.entries.filterMap fun e => e.2.read?.map (e.1, ·) := by
    refine filterMap_of_filterMapM (fun e y hy => ?_) hpatterns
    obtain ⟨name, parameter⟩ := e
    dsimp only at hy
    rw [Parameter.read?]
    split at hy
    · rename_i none
      cases hy
      rw [none]
      rfl
    · rename_i text some
      split at hy
      · rename_i pattern read
        cases hy
        rw [some, Option.bind_some, read]
        rfl
      · cases hy
  have ascending : patterns.Pairwise fun a b => a.1 < b.1 := by
    rw [listed, List.pairwise_filterMap]
    refine spec.parameters.ascending.imp fun hlt a ha b hb => ?_
    obtain ⟨_, -, rfl⟩ := Option.map_eq_some_iff.1 ha
    obtain ⟨_, -, rfl⟩ := Option.map_eq_some_iff.1 hb
    exact hlt
  have same : Dict.ofList patterns = ⟨patterns, ascending⟩ := Dict.ofList_entries ⟨patterns, ascending⟩
  refine Option.ext fun pattern => ?_
  rw [pattern?, same, Dict.get?_eq_some_iff, Option.bind_eq_some_iff]
  change (name, pattern) ∈ patterns ↔ _
  rw [listed, List.mem_filterMap]
  constructor
  · rintro ⟨⟨_, parameter⟩, hmem, hp⟩
    obtain ⟨_, hread, heq⟩ := Option.map_eq_some_iff.1 hp
    cases heq
    exact ⟨parameter, Dict.get?_eq_some_iff.2 hmem, hread⟩
  · rintro ⟨parameter, hget, hread⟩
    exact ⟨(name, parameter), Dict.get?_eq_some_iff.1 hget, by rw [hread]; rfl⟩

/-- Every declared pattern is one. -/
theorem read_of_ofSpec (h : ofSpec spec = .ok p) {name source : String} {parameter : Parameter}
    (declared : spec.parameters.get? name = some parameter) (written : parameter.pattern = some source) :
    ∃ pattern, Pattern.read? source = some pattern := by
  obtain ⟨patterns, hpatterns, -⟩ := bind_eq_ok.1 h
  obtain ⟨y, hy⟩ := exists_of_filterMapM_eq_ok hpatterns _ (Dict.get?_eq_some_iff.1 declared)
  simp only [written] at hy
  split at hy
  · exact ⟨_, ‹_›⟩
  · cases hy

end Process

namespace Registries

/-- Every process is declared with the id under which it stands. -/
def Declared (processes : Dict String Process) : Prop :=
  ∀ id p, processes.get? id = some p → p.spec.processId = id ∧ Process.ofSpec p.spec = .ok p

theorem declared_of_processesOf {specs : List ProcessSpec} {processes : Dict String Process}
    (h : processesOf specs = .ok processes) : Declared processes := by
  refine foldlM_ok Declared (fun d spec d' hnext hd id q hq => ?_) h (fun _ _ h => by cases h)
  split at hnext
  · rename_i p hp
    cases hnext
    rw [Dict.get?_insert] at hq
    split at hq
    · cases hq
      rw [Process.spec_of_ofSpec hp]
      exact ⟨‹id = _›.symm, hp⟩
    · exact hd id q hq
  · cases hnext

end Registries
end ImageryJobs
