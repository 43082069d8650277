import ImageryJobs.Engine.Arena
import ImageryJobs.Proofs.Failing
import Mathlib.Data.List.Forall2
import Mathlib.Data.List.Nodup

/-!
What the operations on an arena do to its places. A plan reserves one empty place for each task,
registering fills the place of a volume, taking empties the places that it took from and leaves
the others alone.
-/

namespace ImageryJobs
namespace Arena

variable {ρ : Type} {a a' : Arena ρ} {v : HeldVolume ρ}

/-- The place of a task's output, if there is one, and the volume in it. -/
def place (a : Arena ρ) (producer : Nat) : Option (Option (HeldVolume ρ)) :=
  (a.slots.get? producer).map (·.volume)

theorem mem_volumes : v ∈ a.volumes ↔ ∃ p, a.place p = some (some v) := by
  simp only [volumes, Dict.values, List.mem_filterMap, List.mem_map]
  constructor
  · intro h
    obtain ⟨slot, ⟨⟨p, _⟩, hm, rfl⟩, hv⟩ := h
    refine ⟨p, ?_⟩
    rw [place, Dict.get?_eq_some_iff.2 hm]
    exact congrArg some hv
  · intro h
    obtain ⟨p, h⟩ := h
    obtain ⟨slot, hs, hv⟩ := Option.map_eq_some_iff.1 h
    exact ⟨slot, ⟨(p, slot), Dict.get?_eq_some_iff.1 hs, rfl⟩, hv⟩

theorem register_of_vacant (h : a.place v.producer = some none) :
    ∃ a', a.register v = .ok a' ∧
      ∀ p, a'.place p = if p = v.producer then some (some v) else a.place p := by
  obtain ⟨slot, hs, hv⟩ := Option.map_eq_some_iff.1 h
  refine ⟨⟨a.slots.insert v.producer { slot with volume := some v }⟩, ?_, ?_⟩
  · simp [register, hs, hv]
  · intro p
    simp only [place, Dict.get?_insert]
    split <;> rfl

/-! ### Taking -/

theorem place_remove (p q : Nat) :
    (a.remove p).2.place q = if q = p then (a.place q).map fun _ => none else a.place q := by
  unfold remove place
  cases hs : a.slots.get? p with
  | none => by_cases hq : q = p <;> simp [hq, hs]
  | some slot => by_cases hq : q = p <;> simp [hq, hs]

theorem remove_eq_some_iff {p : Nat} :
    (a.remove p).1 = some v ↔ a.place p = some (some v) := by
  unfold remove place
  cases hs : a.slots.get? p with
  | none => simp
  | some slot => simp

theorem place_removeAll (ps : List Nat) (q : Nat) :
    (a.removeAll ps).2.place q =
      if q ∈ ps then (a.place q).map fun _ => none else a.place q := by
  induction ps generalizing a with
  | nil => simp [removeAll]
  | cons p ps ih =>
      rw [removeAll]
      dsimp only
      rw [ih, place_remove]
      by_cases hq : q = p
      · subst hq
        simp only [if_true, List.mem_cons, true_or]
        split
        · cases a.place q <;> rfl
        · rfl
      · simp only [List.mem_cons, hq, false_or, if_false]

theorem mem_removeAll {ps : List Nat} :
    v ∈ (a.removeAll ps).1 ↔ ∃ p ∈ ps, a.place p = some (some v) := by
  induction ps generalizing a with
  | nil => simp [removeAll]
  | cons p ps ih =>
      rw [removeAll]
      dsimp only
      rw [List.mem_append, Option.mem_toList, remove_eq_some_iff, ih]
      constructor
      · intro h
        obtain h | ⟨q, hq, h⟩ := h
        · exact ⟨p, by simp, h⟩
        · rw [place_remove] at h
          split at h
          · cases hp : a.place q <;> simp [hp] at h
          · exact ⟨q, by simp [hq], h⟩
      · intro h
        obtain ⟨q, hq, h⟩ := h
        by_cases hqp : q = p
        · exact .inl (hqp ▸ h)
        · refine .inr ⟨q, (List.mem_cons.1 hq).resolve_left hqp, ?_⟩
          rw [place_remove, if_neg hqp, h]

/-- The volumes of different places come in the order in which the places are emptied. -/
theorem removeAll_in_order {ps : List Nat} (distinct : ps.Nodup)
    (stocked : ∀ p ∈ ps, ∃ v, a.place p = some (some v)) :
    List.Forall₂ (fun p v => a.place p = some (some v)) ps (a.removeAll ps).1 := by
  induction ps generalizing a with
  | nil => exact .nil
  | cons p ps ih =>
      obtain ⟨hp, distinct⟩ := List.nodup_cons.1 distinct
      obtain ⟨⟨v, hv⟩, stocked⟩ := List.forall_mem_cons.1 stocked
      have rest : List.Forall₂ (fun q v => (a.remove p).2.place q = some (some v)) ps
          ((a.remove p).2.removeAll ps).1 := by
        refine ih distinct fun q hq => ?_
        rw [place_remove, if_neg (ne_of_mem_of_not_mem hq hp)]
        exact stocked q hq
      have same (q : Nat) (v : HeldVolume ρ) (h : (a.remove p).2.place q = some (some v)) :
          a.place q = some (some v) := by
        rw [place_remove] at h
        split at h
        · cases hq : a.place q <;> simp [hq] at h
        · exact h
      rw [removeAll]
      dsimp only
      rw [remove_eq_some_iff.2 hv]
      exact .cons hv (rest.imp same)

theorem place_of_checkTake {consumer producer : Nat}
    (h : a.checkTake consumer producer = .ok ()) : ∃ v, a.place producer = some (some v) := by
  unfold checkTake at h
  cases hs : a.slots.get? producer with
  | none => simp [hs] at h
  | some slot =>
      cases hv : slot.volume with
      | none =>
          simp only [hs, hv] at h
          split at h <;> simp at h
      | some v => exact ⟨v, by simp [place, hs, hv]⟩

theorem take_eq_ok {consumer : Nat} {ps : List Nat} {taken : List (HeldVolume ρ)} :
    a.take consumer ps = .ok (taken, a') ↔
      (∀ p ∈ ps, a.checkTake consumer p = .ok ()) ∧ a.removeAll ps = (taken, a') := by
  rw [take, bind_eq_ok, ← forM_eq_ok]
  constructor
  · rintro ⟨_, checked, heq⟩
    exact ⟨checked, Except.ok.inj heq⟩
  · exact fun h => ⟨_, h.1, congrArg Except.ok h.2⟩

/-- What a reader takes was in the places that it asked for, none of which was empty. -/
theorem take_ok {consumer : Nat} {ps : List Nat} {taken : List (HeldVolume ρ)}
    (h : a.take consumer ps = .ok (taken, a')) :
    (∀ p ∈ ps, ∃ v ∈ taken, a.place p = some (some v)) ∧
      (∀ v ∈ taken, ∃ p ∈ ps, a.place p = some (some v)) ∧
      ∀ q, a'.place q = if q ∈ ps then (a.place q).map fun _ => none else a.place q := by
  obtain ⟨checked, heq⟩ := take_eq_ok.1 h
  have hm {v : HeldVolume ρ} : v ∈ taken ↔ ∃ p ∈ ps, a.place p = some (some v) := by
    rw [← mem_removeAll, heq]
  refine ⟨fun p hp => ?_, fun v hv => hm.1 hv, fun q => ?_⟩
  · obtain ⟨v, hv⟩ := place_of_checkTake (checked p hp)
    exact ⟨v, hm.2 ⟨p, hp, hv⟩, hv⟩
  · rw [← place_removeAll, heq]

theorem take_in_order {consumer : Nat} {ps : List Nat} {taken : List (HeldVolume ρ)}
    (h : a.take consumer ps = .ok (taken, a')) (distinct : ps.Nodup) :
    List.Forall₂ (fun p v => a.place p = some (some v)) ps taken := by
  obtain ⟨checked, heq⟩ := take_eq_ok.1 h
  obtain rfl : (a.removeAll ps).1 = taken := congrArg Prod.fst heq
  exact removeAll_in_order distinct fun p hp => place_of_checkTake (checked p hp)

/-! ### Planning -/

theorem reserve_ok {seqNums : List Nat} {slots : Dict Nat (Slot ρ)}
    (h : reserve seqNums = .ok slots) :
    seqNums.Nodup ∧
      ∀ n, (slots.get? n).map (·.volume) = if n ∈ seqNums then some none else none := by
  have grow : ∀ (seqNums : List Nat) (start slots : Dict Nat (Slot ρ)),
      seqNums.foldlM (fun slots n =>
        if slots.contains n then Except.error (VolumeError.duplicateTask n)
        else .ok (slots.insert n ⟨none, none⟩)) start = .ok slots →
      (seqNums.Nodup ∧ ∀ n ∈ seqNums, start.get? n = none) ∧
        ∀ n, (slots.get? n).map (·.volume) =
          if n ∈ seqNums then some none else (start.get? n).map (·.volume) := by
    intro seqNums
    induction seqNums with
    | nil =>
        intro start slots h
        cases h
        simp
    | cons m seqNums ih =>
        intro start slots h
        rw [List.foldlM_cons] at h
        by_cases hm : start.contains m
        · simp [hm, bind, Except.bind] at h
        · rw [if_neg hm] at h
          obtain ⟨⟨hnd, hfresh⟩, hget⟩ := ih _ _ h
          have hnone : start.get? m = none := by simpa [Dict.contains] using hm
          have hmem : m ∉ seqNums := by
            intro hmem
            simpa using hfresh m hmem
          refine ⟨⟨List.nodup_cons.2 ⟨hmem, hnd⟩, ?_⟩, ?_⟩
          · intro n hn
            obtain rfl | hn := List.mem_cons.1 hn
            · exact hnone
            · have hne : n ≠ m := fun heq => hmem (heq ▸ hn)
              simpa [hne] using hfresh n hn
          · intro n
            rw [hget n, Dict.get?_insert]
            by_cases hn : n = m
            · simp [hn]
            · simp [hn]
  obtain ⟨⟨hnd, -⟩, hget⟩ := grow seqNums ∅ slots h
  exact ⟨hnd, fun n => by rw [hget n]; rfl⟩

theorem assign_ok {slots slots' : Dict Nat (Slot ρ)} {consumer producer : Nat}
    (h : assign slots consumer producer = .ok slots') (n : Nat) :
    (slots'.get? n).map (·.volume) = (slots.get? n).map (·.volume) := by
  unfold assign at h
  split at h
  · cases h
  · split at h
    · cases h
    · rename_i slot hs
      split at h
      · cases h
      · cases h
        rw [Dict.get?_insert]
        split
        · rename_i heq
          rw [heq, hs]
          rfl
        · rfl

/-- A plan has an empty place for each task, and the numbers of the tasks differ. -/
theorem plan_ok {tasks : List (Nat × List Nat)} (h : plan tasks = .ok a) :
    (tasks.map Prod.fst).Nodup ∧
      ∀ n, a.place n = if n ∈ tasks.map Prod.fst then some none else none := by
  unfold plan at h
  cases hr : (reserve (tasks.map Prod.fst) : Except VolumeError (Dict Nat (Slot ρ))) with
  | error cause => simp [hr, bind, Except.bind] at h
  | ok start =>
      rw [hr] at h
      cases hf : tasks.foldlM (fun slots t => t.2.foldlM (fun slots p => assign slots t.1 p) slots)
          start with
      | error cause =>
          simp only [bind, Except.bind] at h hf
          rw [hf] at h
          cases h
      | ok slots =>
          simp only [bind, Except.bind] at h hf
          rw [hf] at h
          cases h
          obtain ⟨hnd, hget⟩ := reserve_ok hr
          refine ⟨hnd, fun n => ?_⟩
          rw [← hget n]
          let inv (s : Dict Nat (Slot ρ)) : Prop :=
            (s.get? n).map (·.volume) = (start.get? n).map (·.volume)
          refine foldlM_ok inv ?_ hf rfl
          intro s t s' ht hs
          exact foldlM_ok inv (fun s₁ p s₂ hp hs₁ => (assign_ok hp n).trans hs₁) ht hs

/-! ### What is held -/

theorem register_ok (h : a.register v = .ok a') (p : Nat) :
    a'.place p = if p = v.producer then some (some v) else a.place p := by
  unfold register at h
  cases hs : a.slots.get? v.producer with
  | none => simp [hs] at h
  | some slot =>
      cases hv : slot.volume with
      | some _ => simp [hs, hv] at h
      | none =>
          obtain ⟨a'', hr, hplace⟩ := register_of_vacant (a := a) (v := v) (by simp [place, hs, hv])
          simp only [register, hs, hv] at hr
          simp only [hs, hv] at h
          cases hr.symm.trans h
          exact hplace p

/-- Every volume that is held is as said. -/
def All (P : HeldVolume ρ → Prop) (a : Arena ρ) : Prop := ∀ v ∈ a.volumes, P v

variable {P : HeldVolume ρ → Prop}

theorem all_iff : a.All P ↔ ∀ p v, a.place p = some (some v) → P v := by
  simp only [All, mem_volumes]
  exact ⟨fun h p v hp => h v ⟨p, hp⟩, fun h v ⟨p, hp⟩ => h p v hp⟩

theorem all_of_plan {tasks : List (Nat × List Nat)} (h : plan tasks = .ok a) : a.All P := by
  refine all_iff.2 fun p v hp => ?_
  rw [(plan_ok h).2 p] at hp
  split at hp <;> cases hp

theorem volumes_of_plan {tasks : List (Nat × List Nat)} (h : plan tasks = .ok a) : a.volumes = [] :=
  List.eq_nil_iff_forall_not_mem.2 fun v hv => all_of_plan (P := fun _ => False) h v hv

theorem All.take {consumer : Nat} {ps : List Nat} {taken : List (HeldVolume ρ)} (ha : a.All P)
    (h : a.take consumer ps = .ok (taken, a')) : (∀ v ∈ taken, P v) ∧ a'.All P := by
  obtain ⟨-, held, places⟩ := take_ok h
  constructor
  · intro v hv
    obtain ⟨p, -, hp⟩ := held v hv
    exact all_iff.1 ha p v hp
  · refine all_iff.2 fun p v hp => all_iff.1 ha p v ?_
    rw [places] at hp
    split at hp
    · cases hq : a.place p <;> simp [hq] at hp
    · exact hp

theorem All.register (ha : a.All P) (hv : P v) (h : a.register v = .ok a') : a'.All P := by
  refine all_iff.2 fun p v' hp => ?_
  rw [register_ok h] at hp
  split at hp
  · cases hp
    exact hv
  · exact all_iff.1 ha p v' hp

end Arena
end ImageryJobs
