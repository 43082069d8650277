import ImageryJobs.Proofs.Engine.Planning

/-!
An arena whose plan was accepted serves its tasks. Tasks that run in the order of their numbers find
everything that they read in its place, and the place of their own output empty, whatever the order in
which they were planned.
-/

namespace ImageryJobs
namespace Arena

variable {ρ : Type} {a a' left : Arena ρ} {v : HeldVolume ρ}

/-! ### What is accepted -/

theorem assign_eq_ok {slots slots' : Dict Nat (Slot ρ)} {c p : Nat}
    (h : assign slots c p = .ok slots') :
    p < c ∧ ∃ v, slots.get? p = some ⟨none, v⟩ ∧ slots' = slots.insert p ⟨some c, v⟩ := by
  unfold assign at h
  split at h
  · cases h
  · rename_i hlt
    split at h
    · cases h
    · rename_i slot hs
      obtain ⟨consumer, v⟩ := slot
      cases consumer with
      | some first => cases h
      | none =>
          cases h
          exact ⟨Nat.not_le.1 hlt, v, hs, rfl⟩

/-- What was assigned was free before, and was assigned once. -/
theorem free_of_assignAll {rs : List (Nat × Nat)} {slots slots' : Dict Nat (Slot ρ)}
    (h : rs.foldlM (fun slots r => assign slots r.1 r.2) slots = .ok slots') :
    (rs.map Prod.snd).Nodup ∧
      ∀ r ∈ rs, r.2 < r.1 ∧ ∃ v, slots.get? r.2 = some ⟨none, v⟩ := by
  induction rs generalizing slots with
  | nil => exact ⟨List.nodup_nil, by simp⟩
  | cons r rs ih =>
      obtain ⟨c, p⟩ := r
      rw [List.foldlM_cons] at h
      cases ha : assign slots c p with
      | error cause =>
          rw [ha] at h
          cases h
      | ok assigned =>
          rw [ha] at h
          obtain ⟨hlt, v, hv, rfl⟩ := assign_eq_ok ha
          obtain ⟨hnd, hrest⟩ := ih h
          -- What is assigned now is free no longer.
          have other : ∀ r ∈ rs, r.2 ≠ p ∧ r.2 < r.1 ∧ ∃ v, slots.get? r.2 = some ⟨none, v⟩ := by
            intro r hr
            obtain ⟨hlt', v', hv'⟩ := hrest r hr
            rw [Dict.get?_insert] at hv'
            split at hv'
            · cases hv'
            · rename_i hne
              exact ⟨hne, hlt', v', hv'⟩
          refine ⟨List.nodup_cons.2 ⟨fun hm => ?_, hnd⟩, ?_⟩
          · obtain ⟨r, hr, heq⟩ := List.mem_map.1 hm
            exact (other r hr).1 heq
          · intro r hr
            obtain rfl | hr := List.mem_cons.1 hr
            · exact ⟨hlt, v, hv⟩
            · exact (other r hr).2

/-- The tasks that can be planned. -/
structure Readable (tasks : List (Nat × List Nat)) : Prop where
  nums : (tasks.map Prod.fst).Nodup
  once : (tasks.flatMap (·.2)).Nodup
  before : ∀ t ∈ tasks, ∀ p ∈ t.2, p < t.1 ∧ p ∈ tasks.map Prod.fst

theorem readable_of_plan {tasks : List (Nat × List Nat)} (h : plan tasks = .ok a) : Readable tasks := by
  have nums := (plan_ok h).1
  obtain ⟨start, hstart, hget⟩ := reserve_of_nodup (ρ := ρ) nums
  obtain ⟨start', hstart', h⟩ := bind_eq_ok.1 h
  cases hstart.symm.trans hstart'
  obtain ⟨slots, assigned, -⟩ := bind_eq_ok.1 h
  rw [foldlM_readings] at assigned
  obtain ⟨once, free⟩ := free_of_assignAll assigned
  rw [map_snd_readings] at once
  refine ⟨nums, once, fun t ht p hp => ?_⟩
  obtain ⟨hlt, v, hv⟩ := free (t.1, p) (mem_readings.2 ⟨t, ht, rfl, hp⟩)
  rw [hget] at hv
  split at hv
  · rename_i hm
    exact ⟨hlt, hm⟩
  · cases hv

theorem plan_ok_iff {tasks : List (Nat × List Nat)} :
    (∃ a : Arena ρ, plan tasks = .ok a) ↔ Readable tasks :=
  ⟨fun ⟨_, h⟩ => readable_of_plan h, fun h =>
    let ⟨a, ha, _⟩ := plan_of_readable h.nums h.once h.before
    ⟨a, ha⟩⟩

theorem Readable.perm {tasks tasks' : List (Nat × List Nat)} (h : Readable tasks)
    (hp : tasks.Perm tasks') : Readable tasks' := by
  have nums := hp.map Prod.fst
  refine ⟨nums.nodup_iff.1 h.nums, (hp.flatMap_right _).nodup_iff.1 h.once, fun t ht p hm => ?_⟩
  obtain ⟨hlt, hm⟩ := h.before t (hp.mem_iff.2 ht) p hm
  exact ⟨hlt, nums.mem_iff.1 hm⟩

/-! ### Serving -/

/-- An arena is ready for tasks that run in this order: it has an empty place for the output of each,
and what each reads is planned for it and is there, unless it is still to come. -/
structure Serves (a : Arena ρ) (tasks : List (Nat × List Nat)) : Prop where
  order : (tasks.map Prod.fst).Pairwise (· < ·)
  before : ∀ t ∈ tasks, ∀ p ∈ t.2, p < t.1
  planned : ∀ t ∈ tasks, ∀ p ∈ t.2, a.consumerOf p = some t.1
  vacant : ∀ t ∈ tasks, a.place t.1 = some none
  stocked : ∀ t ∈ tasks, ∀ p ∈ t.2, p ∉ tasks.map Prod.fst → ∃ v, a.place p = some (some v)

theorem serves_of_plan {tasks : List (Nat × List Nat)} (h : plan tasks = .ok a)
    (order : (tasks.map Prod.fst).Pairwise (· ≤ ·)) : a.Serves tasks := by
  have readable := readable_of_plan h
  obtain ⟨a', ha', planned⟩ := plan_of_readable (ρ := ρ) readable.nums readable.once readable.before
  cases h.symm.trans ha'
  refine ⟨(order.and readable.nums).imp fun h => Nat.lt_of_le_of_ne h.1 h.2,
    fun t ht p hp => (readable.before t ht p hp).1, fun t ht p hp => (planned p t.1).2 ⟨t, ht, rfl, hp⟩,
    fun t ht => ?_, fun t ht p hp hm => absurd (readable.before t ht p hp).2 hm⟩
  rw [(plan_ok h).2, if_pos (List.mem_map_of_mem ht)]

theorem consumerOf_remove (p q : Nat) : (a.remove p).2.consumerOf q = a.consumerOf q := by
  unfold remove consumerOf
  cases hs : a.slots.get? p with
  | none => rfl
  | some slot => by_cases hq : q = p <;> simp [hq, hs]

theorem consumerOf_removeAll (ps : List Nat) (q : Nat) :
    (a.removeAll ps).2.consumerOf q = a.consumerOf q := by
  induction ps generalizing a with
  | nil => rfl
  | cons p ps ih => exact ih.trans (consumerOf_remove p q)

theorem consumerOf_register (h : a.register v = .ok a') (p : Nat) : a'.consumerOf p = a.consumerOf p := by
  unfold register at h
  split at h
  · cases h
  · rename_i slot hs
    split at h
    · cases h
    · cases h
      rw [consumerOf, consumerOf, Dict.get?_insert]
      split
      · rename_i heq
        rw [heq, hs]
        rfl
      · rfl

/-- A reader for which everything is planned and there takes it all. -/
theorem take_of_stocked {c : Nat} {ps : List Nat} (planned : ∀ p ∈ ps, a.consumerOf p = some c)
    (stocked : ∀ p ∈ ps, ∃ v, a.place p = some (some v)) : a.take c ps = .ok (a.removeAll ps) := by
  have checked : ps.forM (a.checkTake c) = .ok () := by
    refine forM_eq_ok.2 fun p hp => ?_
    obtain ⟨v, hv⟩ := stocked p hp
    obtain ⟨slot, hs, hv⟩ := Option.map_eq_some_iff.1 hv
    have reader := planned p hp
    rw [consumerOf, hs] at reader
    have reader : slot.consumer = some c := reader
    simp [checkTake, hs, reader, hv]
  rw [take, checked]
  rfl

/-- The first task gets what it reads, and once its output is in its place the others are served. -/
theorem Serves.turn {t : Nat × List Nat} {rest : List (Nat × List Nat)} (h : a.Serves (t :: rest)) :
    ∃ inputs left, a.take t.1 t.2 = .ok (inputs, left) ∧ left.place t.1 = some none ∧
      ∀ v a', v.producer = t.1 → left.register v = .ok a' → a'.Serves rest := by
  obtain ⟨first, order⟩ := List.pairwise_cons.1 h.order
  have later : ∀ t' ∈ rest, t.1 < t'.1 := fun t' ht' => first t'.1 (List.mem_map_of_mem ht')
  have here := List.mem_cons_self (a := t) (l := rest)
  have past : ∀ p ∈ t.2, p ∉ (t :: rest).map Prod.fst := by
    intro p hp hm
    have before := h.before t here p hp
    obtain ⟨t', ht', rfl⟩ := List.mem_map.1 hm
    obtain rfl | ht' := List.mem_cons.1 ht'
    · exact Nat.lt_irrefl _ before
    · exact Nat.lt_asymm before (later t' ht')
  have taken := take_of_stocked (h.planned t here) fun p hp => h.stocked t here p hp (past p hp)
  have own : t.1 ∉ t.2 := fun hm => Nat.lt_irrefl _ (h.before t here t.1 hm)
  refine ⟨_, _, taken, ?_, fun v a' producer registered => ?_⟩
  · rw [place_removeAll, if_neg own]
    exact h.vacant t here
  have place (p : Nat) := register_ok registered p
  refine ⟨order, fun t' ht' => h.before t' (List.mem_cons_of_mem _ ht'), fun t' ht' p hp => ?_,
    fun t' ht' => ?_, fun t' ht' p hp hm => ?_⟩
  · rw [consumerOf_register registered, consumerOf_removeAll]
    exact h.planned t' (List.mem_cons_of_mem _ ht') p hp
  · rw [place, producer, if_neg (Nat.ne_of_gt (later t' ht')), place_removeAll,
      h.vacant t' (List.mem_cons_of_mem _ ht')]
    split <;> rfl
  · rw [place, producer]
    by_cases heq : p = t.1
    · exact ⟨v, if_pos heq⟩
    · -- It is planned for a later task, so that this one has left it where it was.
      have kept : p ∉ t.2 := by
        intro hm'
        have reader := (h.planned t here p hm').symm.trans (h.planned t' (List.mem_cons_of_mem _ ht') p hp)
        exact Nat.ne_of_lt (later t' ht') (Option.some.inj reader)
      have absent : p ∉ (t :: rest).map Prod.fst := fun hm' =>
        (List.mem_cons.1 hm').elim heq hm
      obtain ⟨v', hv'⟩ := h.stocked t' (List.mem_cons_of_mem _ ht') p hp absent
      exact ⟨v', by rw [if_neg heq, place_removeAll, if_neg kept, hv']⟩

end Arena
end ImageryJobs
