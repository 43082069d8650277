import ImageryJobs.Graph.Suggestion
import Mathlib.Data.List.Induction
import Mathlib.Order.MinMax

/-!
The edit distance of two lists. It is the least number of insertions, deletions and replacements that
lead from one list to the other; hence it is the same from the back as from the front, and the rows
that are built while a list is read hold the distances of its beginnings.
-/

namespace ImageryJobs.Suggestion

universe u

variable {α : Type u}

/-! ### Edits -/

/-- So many edits are enough to lead from one list to another. -/
inductive Edits : List α → List α → Nat → Prop where
  | done (n : Nat) : Edits [] [] n
  | keep {s t : List α} {n : Nat} (a : α) (h : Edits s t n) : Edits (a :: s) (a :: t) n
  | replace {s t : List α} {n : Nat} (a b : α) (h : Edits s t n) :
      Edits (a :: s) (b :: t) (n + 1)
  | delete {s t : List α} {n : Nat} (a : α) (h : Edits s t n) : Edits (a :: s) t (n + 1)
  | insert {s t : List α} {n : Nat} (b : α) (h : Edits s t n) : Edits s (b :: t) (n + 1)

namespace Edits

variable {s t s' t' : List α} {n m : Nat}

theorem mono (h : Edits s t n) (hn : n ≤ m) : Edits s t m := by
  induction h generalizing m with
  | done => exact .done m
  | keep a _ ih => exact .keep a (ih hn)
  | replace a b _ ih =>
      obtain ⟨m, rfl⟩ : ∃ k, m = k + 1 := ⟨m - 1, by omega⟩
      exact .replace a b (ih (by omega))
  | delete a _ ih =>
      obtain ⟨m, rfl⟩ : ∃ k, m = k + 1 := ⟨m - 1, by omega⟩
      exact .delete a (ih (by omega))
  | insert b _ ih =>
      obtain ⟨m, rfl⟩ : ∃ k, m = k + 1 := ⟨m - 1, by omega⟩
      exact .insert b (ih (by omega))

theorem symm (h : Edits s t n) : Edits t s n := by
  induction h with
  | done n => exact .done n
  | keep a _ ih => exact .keep a ih
  | replace a b _ ih => exact .replace b a ih
  | delete a _ ih => exact .insert a ih
  | insert b _ ih => exact .delete b ih

theorem append (h : Edits s t n) (h' : Edits s' t' m) : Edits (s ++ s') (t ++ t') (n + m) := by
  induction h with
  | done n => exact h'.mono (Nat.le_add_left m n)
  | keep a _ ih => exact .keep a ih
  | replace a b _ ih => exact Nat.succ_add .. ▸ .replace a b ih
  | delete a _ ih => exact Nat.succ_add .. ▸ .delete a ih
  | insert b _ ih => exact Nat.succ_add .. ▸ .insert b ih

/-- Edits can be made from the back as well. -/
theorem reverse (h : Edits s t n) : Edits s.reverse t.reverse n := by
  induction h with
  | done n => exact .done n
  | keep a _ ih => simpa using ih.append (.keep a (.done 0))
  | replace a b _ ih => simpa using ih.append (.replace a b (.done 0))
  | delete a _ ih => simpa using ih.append (.delete a (.done 0))
  | insert b _ ih => simpa using ih.append (.insert b (.done 0))

/-- What is inserted at the front can be left out: one deletion makes up for it. -/
theorem tail {b : α} (h : Edits s (b :: t) n) : Edits s t (n + 1) := by
  generalize ht : b :: t = t' at h
  induction h with
  | done => cases ht
  | keep a h =>
      cases ht
      exact .delete _ h
  | replace a b h =>
      cases ht
      exact .delete a (h.mono (Nat.le_succ _))
  | delete a _ ih => exact .delete a (ih ht)
  | insert b h =>
      cases ht
      exact h.mono (by omega)

theorem inserts (t : List α) : Edits [] t t.length := by
  induction t with
  | nil => exact .done 0
  | cons b t ih => exact .insert b ih

theorem length_le (h : Edits [] t n) : t.length ≤ n := by
  generalize hs : ([] : List α) = s at h
  induction h with
  | done => exact Nat.zero_le _
  | insert b _ ih => exact Nat.succ_le_succ (ih hs)
  | keep | replace | delete => cases hs

end Edits

/-! ### The distance -/

variable [DecidableEq α] {s t p : List α} {n : Nat} {a b : α}

@[simp] theorem distance_nil (t : List α) : distance [] t = t.length := by rw [distance]

@[simp] theorem distance_nil_right (s : List α) : distance s [] = s.length := by
  cases s <;> simp [distance]

theorem edits_distance (s t : List α) : Edits s t (distance s t) := by
  induction s, t using distance.induct with
  | case1 t => exact distance_nil t ▸ .inserts t
  | case2 s => exact distance_nil_right s ▸ (Edits.inserts s).symm
  | case3 s a t ih =>
      rw [distance, if_pos rfl]
      exact .keep a ih
  | case4 a s b t hab replaced deleted inserted =>
      rw [distance, if_neg hab, Nat.add_comm]
      obtain h | h := min_choice (distance s t) (min (distance s (b :: t)) (distance (a :: s) t))
      · rw [h]
        exact .replace a b replaced
      · rw [h]
        obtain h | h := min_choice (distance s (b :: t)) (distance (a :: s) t)
        · rw [h]
          exact .delete a deleted
        · rw [h]
          exact .insert b inserted

/-- No fewer edits than the distance are enough. An element that both lists begin with need not be
edited, since edits of what stands before the rest of one list can be put off to the other. -/
theorem distance_le_of_edits (h : Edits s t n) : distance s t ≤ n := by
  induction s, t using distance.induct generalizing n with
  | case1 t => exact distance_nil t ▸ h.length_le
  | case2 s => exact distance_nil_right s ▸ h.symm.length_le
  | case3 s a t ih =>
      rw [distance, if_pos rfl]
      cases h with
      | keep _ h => exact ih h
      | replace _ _ h => exact ih (h.mono (Nat.le_succ _))
      | delete _ h => exact ih h.tail
      | insert _ h => exact ih h.symm.tail.symm
  | case4 a s b t hab replaced deleted inserted =>
      rw [distance, if_neg hab]
      cases h with
      | keep => exact absurd rfl hab
      | replace _ _ h =>
          have := replaced h
          omega
      | delete _ h =>
          have := deleted h
          omega
      | insert _ h =>
          have := inserted h
          omega

/-- The distance is the least number of edits. -/
theorem distance_le_iff : distance s t ≤ n ↔ Edits s t n :=
  ⟨(edits_distance s t).mono, distance_le_of_edits⟩

end ImageryJobs.Suggestion
