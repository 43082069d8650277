import ImageryJobs.Proofs.Engine.HandOver

/-!
Which hand-overs can be planned: those of tasks with different numbers, each of which reads only
tasks of lower number, and no output of which is read twice.
-/

namespace ImageryJobs
namespace Arena

variable {ρ : Type}

theorem reserve_of_nodup {seqNums : List Nat} (h : seqNums.Nodup) :
    ∃ slots : Dict Nat (Slot ρ), reserve seqNums = .ok slots ∧
      ∀ n, slots.get? n = if n ∈ seqNums then some ⟨none, none⟩ else none := by
  have grow : ∀ (seqNums : List Nat) (start : Dict Nat (Slot ρ)), seqNums.Nodup →
      (∀ n ∈ seqNums, start.get? n = none) →
      ∃ slots, seqNums.foldlM (fun slots n =>
          if slots.contains n then Except.error (VolumeError.duplicateTask n)
          else .ok (slots.insert n ⟨none, none⟩)) start = .ok slots ∧
        ∀ n, slots.get? n = if n ∈ seqNums then some ⟨none, none⟩ else start.get? n := by
    intro seqNums
    induction seqNums with
    | nil =>
        intro start _ _
        exact ⟨start, rfl, by simp⟩
    | cons m seqNums ih =>
        intro start hnd hfresh
        obtain ⟨hm, hnd⟩ := List.nodup_cons.1 hnd
        have hnew : start.contains m = false := by simp [Dict.contains, hfresh m]
        have hrest : ∀ n ∈ seqNums, (start.insert m ⟨none, none⟩).get? n = none := by
          intro n hn
          have hne : n ≠ m := fun heq => hm (heq ▸ hn)
          rw [Dict.get?_insert, if_neg hne]
          exact hfresh n (List.mem_cons_of_mem _ hn)
        obtain ⟨slots, hslots, hget⟩ := ih _ hnd hrest
        refine ⟨slots, ?_, fun n => ?_⟩
        · rw [List.foldlM_cons, hnew]
          exact hslots
        · rw [hget, Dict.get?_insert]
          by_cases hn : n = m <;> simp [hn]
  exact grow seqNums ∅ h fun _ _ => rfl

/-- Every reader with what it reads, in the order in which they are planned. -/
def readings (tasks : List (Nat × List Nat)) : List (Nat × Nat) :=
  tasks.flatMap fun t => t.2.map fun p => (t.1, p)

theorem mem_readings {tasks : List (Nat × List Nat)} {c p : Nat} :
    (c, p) ∈ readings tasks ↔ ∃ t ∈ tasks, t.1 = c ∧ p ∈ t.2 := by
  simp [readings, and_comm]

theorem map_snd_readings (tasks : List (Nat × List Nat)) :
    (readings tasks).map Prod.snd = tasks.flatMap (·.2) := by
  simp [readings, List.map_flatMap, Function.comp_def]

theorem foldlM_readings (tasks : List (Nat × List Nat)) (slots : Dict Nat (Slot ρ)) :
    tasks.foldlM (fun slots t => t.2.foldlM (fun slots p => assign slots t.1 p) slots) slots =
      (readings tasks).foldlM (fun slots r => assign slots r.1 r.2) slots := by
  induction tasks generalizing slots with
  | nil => rfl
  | cons t tasks ih =>
      rw [List.foldlM_cons, readings, List.flatMap_cons, List.foldlM_append, List.foldlM_map]
      exact congrArg (_ >>= ·) (funext ih)

/-- The reader that is planned for a task's output. -/
def readerIn (slots : Dict Nat (Slot ρ)) (p : Nat) : Option Nat := (slots.get? p).bind (·.consumer)

theorem assign_of_free {slots : Dict Nat (Slot ρ)} {c p : Nat} {v : Option (HeldVolume ρ)}
    (hlt : p < c) (hp : slots.get? p = some ⟨none, v⟩) :
    assign slots c p = .ok (slots.insert p ⟨some c, v⟩) := by
  rw [assign, if_neg (Nat.not_le.2 hlt), hp]

theorem assignAll_of_free {rs : List (Nat × Nat)} {slots : Dict Nat (Slot ρ)}
    (hnd : (rs.map Prod.snd).Nodup)
    (hrs : ∀ r ∈ rs, r.2 < r.1 ∧ ∃ v, slots.get? r.2 = some ⟨none, v⟩) :
    ∃ slots', rs.foldlM (fun slots r => assign slots r.1 r.2) slots = .ok slots' ∧
      ∀ p c, readerIn slots' p = some c ↔ (c, p) ∈ rs ∨ readerIn slots p = some c := by
  induction rs generalizing slots with
  | nil => exact ⟨slots, rfl, by simp⟩
  | cons r rs ih =>
      obtain ⟨c, p⟩ := r
      obtain ⟨hp, hnd⟩ := List.nodup_cons.1 hnd
      obtain ⟨hlt, v, hv⟩ := hrs (c, p) List.mem_cons_self
      have hrest : ∀ r ∈ rs, r.2 < r.1 ∧
          ∃ v', (slots.insert p ⟨some c, v⟩).get? r.2 = some ⟨none, v'⟩ := by
        intro r hr
        obtain ⟨hlt', v', hv'⟩ := hrs r (List.mem_cons_of_mem _ hr)
        have hne : r.2 ≠ p := fun heq => hp (List.mem_map.2 ⟨r, hr, heq⟩)
        exact ⟨hlt', v', by rw [Dict.get?_insert, if_neg hne, hv']⟩
      obtain ⟨slots', hslots, hreader⟩ := ih hnd hrest
      refine ⟨slots', ?_, fun q d => ?_⟩
      · rw [List.foldlM_cons, assign_of_free hlt hv]
        exact hslots
      · rw [hreader, List.mem_cons, readerIn, Dict.get?_insert]
        by_cases hq : q = p
        · subst hq
          have hfree : readerIn slots q = none := by rw [readerIn, hv]; rfl
          have hnot : (d, q) ∉ rs := fun hm => hp (List.mem_map.2 ⟨_, hm, rfl⟩)
          simp [hfree, hnot, eq_comm]
        · simp [hq, readerIn]

/-- Tasks with different numbers, of which each reads tasks of lower number and no output is read
twice, can be planned, and the plan gives each output to the task that reads it. -/
theorem plan_of_readable {tasks : List (Nat × List Nat)} (hnums : (tasks.map Prod.fst).Nodup)
    (honce : (tasks.flatMap (·.2)).Nodup)
    (hbefore : ∀ t ∈ tasks, ∀ p ∈ t.2, p < t.1 ∧ p ∈ tasks.map Prod.fst) :
    ∃ a : Arena ρ, plan tasks = .ok a ∧
      ∀ p c, a.consumerOf p = some c ↔ ∃ t ∈ tasks, t.1 = c ∧ p ∈ t.2 := by
  obtain ⟨start, hstart, hget⟩ := reserve_of_nodup (ρ := ρ) hnums
  have hfree : ∀ r ∈ readings tasks, r.2 < r.1 ∧ ∃ v, start.get? r.2 = some ⟨none, v⟩ := by
    intro r hr
    obtain ⟨t, ht, heq, hp⟩ := mem_readings.1 hr
    obtain ⟨hlt, hm⟩ := hbefore t ht r.2 hp
    exact ⟨heq ▸ hlt, none, by rw [hget, if_pos hm]⟩
  obtain ⟨slots, hslots, hreader⟩ := assignAll_of_free (by rwa [map_snd_readings]) hfree
  refine ⟨⟨slots⟩, ?_, fun p c => ?_⟩
  · simp only [plan, hstart, foldlM_readings, hslots, bind, Except.bind, pure, Except.pure]
  · have hnone : readerIn start p ≠ some c := by
      rw [readerIn, hget]
      split <;> simp
    rw [← mem_readings]
    exact (hreader p c).trans (or_iff_left hnone)

end Arena
end ImageryJobs
