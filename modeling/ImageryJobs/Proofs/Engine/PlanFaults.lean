import ImageryJobs.Proofs.Engine.Serving

/-!
What is wrong with tasks that cannot be planned. The check of a plan goes through the numbers first and
through what is read then, and ends at the first thing that is wrong; what it reports is so. As it also
accepts nothing that is wrong, it is exact.
-/

namespace ImageryJobs

/-- What an error says of the tasks that could not be planned. The last three are no errors of a plan. -/
def VolumeError.TrueOf (tasks : List (Nat × List Nat)) : VolumeError → Prop
  | .duplicateTask n => 2 ≤ (tasks.map Prod.fst).count n
  | .unknownProducer consumer producer =>
      (consumer, producer) ∈ Arena.readings tasks ∧ producer ∉ tasks.map Prod.fst
  | .outOfOrder consumer producer =>
      (consumer, producer) ∈ Arena.readings tasks ∧ consumer ≤ producer
  | .sharedOutput producer first second =>
      [(first, producer), (second, producer)].Sublist (Arena.readings tasks)
  | .wrongConsumer .. | .missing _ | .alreadyRegistered _ => False

namespace Arena

variable {ρ : Type} {slots slots' : Dict Nat (Slot ρ)}

/-- The number that is refused is the first that has come before. -/
theorem reserve_error {seqNums : List Nat} {cause : VolumeError}
    (h : (reserve seqNums : Except VolumeError (Dict Nat (Slot ρ))) = .error cause) :
    ∃ before n after, seqNums = before ++ n :: after ∧ before.Nodup ∧ n ∈ before ∧
      cause = .duplicateTask n := by
  obtain ⟨before, n, after, start, rfl, reserved, refused⟩ := foldlM_eq_error h
  obtain ⟨distinct, places⟩ := reserve_ok reserved
  split at refused
  · rename_i present
    cases refused
    refine ⟨before, n, after, rfl, distinct, ?_, rfl⟩
    have place := places n
    obtain ⟨slot, hs⟩ := Option.isSome_iff_exists.1 present
    rw [hs] at place
    by_contra absent
    rw [if_neg absent] at place
    cases place
  · cases refused

theorem assign_error {c p : Nat} {cause : VolumeError} (h : assign slots c p = .error cause) :
    (c ≤ p ∧ cause = .outOfOrder c p) ∨ (slots.get? p = none ∧ cause = .unknownProducer c p) ∨
      ∃ first, readerIn slots p = some first ∧ cause = .sharedOutput p first c := by
  unfold assign at h
  split at h
  · rename_i late
    cases h
    exact .inl ⟨late, rfl⟩
  · split at h
    · rename_i absent
      cases h
      exact .inr (.inl ⟨absent, rfl⟩)
    · rename_i slot hs
      split at h
      · rename_i first taken
        cases h
        refine .inr (.inr ⟨first, ?_, rfl⟩)
        rw [readerIn, hs]
        exact taken
      · cases h

/-- Assigning changes no volumes and adds the readers that are assigned. -/
theorem assignAll_ok {rs : List (Nat × Nat)}
    (h : rs.foldlM (fun slots r => assign slots r.1 r.2) slots = .ok slots') :
    (∀ n, (slots'.get? n).map (·.volume) = (slots.get? n).map (·.volume)) ∧
      ∀ p c, readerIn slots' p = some c ↔ (c, p) ∈ rs ∨ readerIn slots p = some c := by
  constructor
  · intro n
    let inv (s : Dict Nat (Slot ρ)) : Prop :=
      (s.get? n).map (·.volume) = (slots.get? n).map (·.volume)
    exact foldlM_ok inv (fun _ _ _ assigned kept => (assign_ok assigned n).trans kept) h rfl
  · obtain ⟨once, free⟩ := free_of_assignAll h
    obtain ⟨_, same, readers⟩ := assignAll_of_free once free
    cases h.symm.trans same
    exact readers

/-- What is reported of tasks that cannot be planned is true of them. -/
theorem trueOf_of_plan {tasks : List (Nat × List Nat)} {cause : VolumeError}
    (h : (plan tasks : Except VolumeError (Arena ρ)) = .error cause) : cause.TrueOf tasks := by
  obtain refused | ⟨start, reserved, h⟩ := bind_eq_error.1 h
  · obtain ⟨before, n, after, numbers, -, hn, rfl⟩ := reserve_error refused
    have earlier : 1 ≤ before.count n := List.count_pos_iff.2 hn
    rw [VolumeError.TrueOf, numbers, List.count_append, List.count_cons_self]
    omega
  · obtain ⟨distinct, places⟩ := reserve_ok reserved
    obtain refused | ⟨_, -, h⟩ := bind_eq_error.1 h
    · rw [foldlM_readings] at refused
      obtain ⟨before, ⟨c, p⟩, after, slots, split, assigned, refused⟩ := foldlM_eq_error refused
      obtain ⟨volumes, readers⟩ := assignAll_ok assigned
      have reads : (c, p) ∈ readings tasks := by simp [split]
      obtain ⟨late, rfl⟩ | ⟨absent, rfl⟩ | ⟨first, reader, rfl⟩ := assign_error refused
      · exact ⟨reads, late⟩
      · refine ⟨reads, fun hm => ?_⟩
        have place := (volumes p).trans (places p)
        rw [absent, if_pos hm] at place
        cases place
      · -- At the start nobody reads anything, so that the first reader was assigned on the way.
        have unread : readerIn start p ≠ some first := by
          obtain ⟨_, same, fresh⟩ := reserve_of_nodup (ρ := ρ) distinct
          cases reserved.symm.trans same
          rw [readerIn, fresh]
          split <;> simp
        have assignedBefore : (first, p) ∈ before :=
          ((readers p first).1 reader).resolve_right unread
        rw [VolumeError.TrueOf, split]
        exact (List.singleton_sublist.2 assignedBefore).append
          (List.singleton_sublist.2 List.mem_cons_self)
    · cases h

/-- The check of a plan is exact. A plan is made if and only if the numbers of the tasks differ, each
task reads only tasks of lower number, and no output is listed twice; it gives each output to the task
that lists it, and no volume is held yet. What is reported where no plan is made is true of the tasks. -/
theorem plan_exact (tasks : List (Nat × List Nat)) :
    ((∃ a : Arena ρ, plan tasks = .ok a) ↔
      (tasks.map Prod.fst).Nodup ∧
      (∀ t ∈ tasks, ∀ p ∈ t.2, p ∈ tasks.map Prod.fst ∧ p < t.1) ∧
      ∀ p, (tasks.flatMap (·.2)).count p ≤ 1) ∧
    (∀ a : Arena ρ, plan tasks = .ok a →
      (∀ p c, a.consumerOf p = some c ↔ ∃ t ∈ tasks, t.1 = c ∧ p ∈ t.2) ∧ a.held = 0) ∧
    ∀ cause, (plan tasks : Except VolumeError (Arena ρ)) = .error cause → cause.TrueOf tasks := by
  refine ⟨?_, fun a planned => ⟨?_, ?_⟩, fun cause => trueOf_of_plan⟩
  · rw [plan_ok_iff]
    constructor
    · intro h
      exact ⟨h.nums, fun t ht p hp => (h.before t ht p hp).symm, List.nodup_iff_count_le_one.1 h.once⟩
    · intro h
      obtain ⟨nums, before, once⟩ := h
      exact ⟨nums, List.nodup_iff_count_le_one.2 once, fun t ht p hp => (before t ht p hp).symm⟩
  · have readable := readable_of_plan planned
    obtain ⟨_, same, readers⟩ :=
      plan_of_readable (ρ := ρ) readable.nums readable.once readable.before
    cases planned.symm.trans same
    exact readers
  · rw [held, volumes_of_plan planned]
    rfl

/-- Three tasks that are planned in no order, and the same with one output listed twice by one task. -/
theorem plan_exact_sample :
    (∃ a : Arena String, plan [(7, [4, 2]), (2, []), (4, [])] = .ok a ∧
      (∀ c, a.consumerOf 4 = some c ↔ ∃ t ∈ [(7, [4, 2]), (2, []), (4, [])], t.1 = c ∧ 4 ∈ t.2) ∧
      a.held = 0) ∧
    (plan [(7, [4, 2, 4]), (2, []), (4, [])] : Except VolumeError (Arena String)) =
      .error (.sharedOutput 4 7 7) ∧
    VolumeError.TrueOf [(7, [4, 2, 4]), (2, []), (4, [])] (.sharedOutput 4 7 7) := by
  have refused : (plan [(7, [4, 2, 4]), (2, []), (4, [])] : Except VolumeError (Arena String)) =
      .error (.sharedOutput 4 7 7) := by decide
  refine ⟨?_, refused, (plan_exact _).2.2 _ refused⟩
  have valid : ∀ p, ([(7, [4, 2]), (2, []), (4, [])].flatMap (·.2)).count p ≤ 1 :=
    List.nodup_iff_count_le_one.1 (by decide)
  obtain ⟨a, planned⟩ := (plan_exact (ρ := String) _).1.2 ⟨by decide, by decide, valid⟩
  obtain ⟨readers, held⟩ := (plan_exact _).2.1 a planned
  exact ⟨a, planned, readers 4, held⟩

end Arena
end ImageryJobs
