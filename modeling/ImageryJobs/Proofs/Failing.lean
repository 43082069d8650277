import Mathlib.Data.List.Forall2

/-!
When computations that may fail succeed.
-/

namespace ImageryJobs

universe u v
variable {ε : Type u} {α β : Type v}

theorem bind_eq_ok {x : Except ε α} {f : α → Except ε β} {b : β} :
    (x >>= f) = .ok b ↔ ∃ a, x = .ok a ∧ f a = .ok b := by
  cases x with
  | error e => simp [bind, Except.bind]
  | ok a => simp [bind, Except.bind]

theorem bind_eq_error {x : Except ε α} {f : α → Except ε β} {e : ε} :
    (x >>= f) = .error e ↔ x = .error e ∨ ∃ a, x = .ok a ∧ f a = .error e := by
  cases x with
  | error e => simp [bind, Except.bind]
  | ok a => simp [bind, Except.bind]

theorem exists_bind_eq_ok {x : Except ε α} {f : α → Except ε β} :
    (∃ b, (x >>= f) = .ok b) ↔ ∃ a, x = .ok a ∧ ∃ b, f a = .ok b := by
  cases x with
  | error e => simp [bind, Except.bind]
  | ok a => simp [bind, Except.bind]

theorem map_eq_ok {x : Except ε α} {f : α → β} {b : β} :
    x.map f = .ok b ↔ ∃ a, x = .ok a ∧ f a = b := by
  cases x with
  | error e => simp [Except.map]
  | ok a => simp [Except.map]

theorem map_eq_error {x : Except ε α} {f : α → β} {e : ε} : x.map f = .error e ↔ x = .error e := by
  cases x <;> simp [Except.map]

theorem forM_eq_ok {l : List α} {f : α → Except ε PUnit} :
    l.forM f = .ok ⟨⟩ ↔ ∀ x ∈ l, f x = .ok ⟨⟩ := by
  induction l with
  | nil => simp [List.forM, pure, Except.pure]
  | cons x l ih =>
      change (f x >>= fun _ => l.forM f) = .ok ⟨⟩ ↔ _
      rw [bind_eq_ok, List.forall_mem_cons, ← ih]
      constructor
      · rintro ⟨⟨⟩, hx, hl⟩
        exact ⟨hx, hl⟩
      · exact fun h => ⟨_, h⟩

theorem forM_congr {l : List α} {f g : α → Except ε PUnit} (h : ∀ x ∈ l, f x = g x) :
    l.forM f = l.forM g := by
  induction l with
  | nil => rfl
  | cons x l ih =>
      obtain ⟨hx, hl⟩ := List.forall_mem_cons.1 h
      change (f x >>= fun _ => l.forM f) = g x >>= fun _ => l.forM g
      rw [hx, ih hl]

/-- A pass over a list fails with its first element that fails. -/
theorem forM_eq_error {l : List α} {f : α → Except ε PUnit} {e : ε} :
    l.forM f = .error e ↔
      ∃ before x after, l = before ++ x :: after ∧ (∀ y ∈ before, f y = .ok ⟨⟩) ∧ f x = .error e := by
  induction l with
  | nil => simp [List.forM, pure, Except.pure]
  | cons x l ih =>
      change (f x >>= fun _ => l.forM f) = .error e ↔ _
      rw [bind_eq_error, ih]
      constructor
      · rintro (hx | ⟨⟨⟩, hx, before, y, after, rfl, hbefore, hy⟩)
        · exact ⟨[], x, l, rfl, List.forall_mem_nil _, hx⟩
        · exact ⟨x :: before, y, after, rfl, List.forall_mem_cons.2 ⟨hx, hbefore⟩, hy⟩
      · rintro ⟨before, y, after, heq, hbefore, hy⟩
        cases before with
        | nil =>
            cases heq
            exact .inl hy
        | cons z before =>
            cases heq
            obtain ⟨hz, hbefore⟩ := List.forall_mem_cons.1 hbefore
            exact .inr ⟨_, hz, before, y, after, rfl, hbefore, hy⟩

theorem mapM_eq_ok {l : List α} {f : α → Except ε β} {ys : List β} :
    l.mapM f = .ok ys ↔ List.Forall₂ (fun x y => f x = .ok y) l ys := by
  induction l generalizing ys with
  | nil => simp [pure, Except.pure, eq_comm]
  | cons x l ih =>
      simp only [List.mapM_cons, bind_eq_ok, List.forall₂_cons_left_iff, ← ih]
      constructor
      · rintro ⟨y, hy, rest, hrest, heq⟩
        exact ⟨y, rest, hy, hrest, (Except.ok.inj heq).symm⟩
      · rintro ⟨y, rest, hy, hrest, rfl⟩
        exact ⟨y, hy, rest, hrest, rfl⟩

/-- What reads each value back reads the list of them back. -/
theorem mapM_map {write : α → β} {read : β → Option α} {l : List α}
    (h : ∀ x ∈ l, read (write x) = some x) : (l.map write).mapM read = some l := by
  induction l with
  | nil => rfl
  | cons x l ih =>
      obtain ⟨first, rest⟩ := List.forall_mem_cons.1 h
      rw [List.map_cons, List.mapM_cons, first, ih rest]
      rfl

theorem exists_of_mem_mapM {read : α → Option β} {l : List α} {l' : List β}
    (h : l.mapM read = some l') : ∀ y ∈ l', ∃ x ∈ l, read x = some y := by
  induction l generalizing l' with
  | nil =>
      cases h
      exact fun _ hy => absurd hy List.not_mem_nil
  | cons x l ih =>
      rw [List.mapM_cons] at h
      obtain ⟨y, first, h⟩ := Option.bind_eq_some_iff.1 h
      obtain ⟨ys, rest, h⟩ := Option.bind_eq_some_iff.1 h
      cases h
      rw [List.forall_mem_cons]
      refine ⟨⟨x, List.mem_cons_self, first⟩, fun z hz => ?_⟩
      obtain ⟨w, hw, read⟩ := ih rest z hz
      exact ⟨w, List.mem_cons_of_mem _ hw, read⟩

theorem foldlM_ok (inv : β → Prop) {f : β → α → Except ε β}
    (hf : ∀ s x s', f s x = .ok s' → inv s → inv s') {l : List α} {s s' : β}
    (h : l.foldlM f s = .ok s') (hs : inv s) : inv s' := by
  induction l generalizing s with
  | nil =>
      cases h
      exact hs
  | cons x l ih =>
      rw [List.foldlM_cons] at h
      obtain ⟨next, hnext, h⟩ := bind_eq_ok.1 h
      exact ih h (hf s x next hnext hs)

/-- What fails first in a fold is one of its steps, with what the steps before have left. -/
theorem foldlM_eq_error {f : β → α → Except ε β} {l : List α} {s : β} {e : ε}
    (h : l.foldlM f s = .error e) :
    ∃ before x after s', l = before ++ x :: after ∧ before.foldlM f s = .ok s' ∧ f s' x = .error e := by
  induction l generalizing s with
  | nil => cases h
  | cons x l ih =>
      rw [List.foldlM_cons] at h
      obtain hx | ⟨next, hnext, h⟩ := bind_eq_error.1 h
      · exact ⟨[], x, l, s, rfl, rfl, hx⟩
      · obtain ⟨before, y, after, s', rfl, hs', hy⟩ := ih h
        refine ⟨x :: before, y, after, s', rfl, ?_, hy⟩
        rw [List.foldlM_cons, hnext]
        exact hs'

theorem filterMap_of_filterMapM {l : List α} {f : α → Except ε (Option β)}
    {g : α → Option β} {ys : List β} (hf : ∀ x y, f x = .ok y → y = g x) (h : l.filterMapM f = .ok ys) :
    ys = l.filterMap g := by
  induction l generalizing ys with
  | nil =>
      cases h
      rfl
  | cons x l ih =>
      rw [List.filterMapM_cons] at h
      obtain ⟨y, hy, h⟩ := bind_eq_ok.1 h
      rw [List.filterMap_cons, ← hf x y hy]
      cases y with
      | none => exact ih h
      | some y =>
          obtain ⟨rest, hrest, heq⟩ := bind_eq_ok.1 h
          rw [← Except.ok.inj heq, ih hrest]

theorem exists_of_filterMapM_eq_ok {l : List α} {f : α → Except ε (Option β)} {ys : List β}
    (h : l.filterMapM f = .ok ys) : ∀ x ∈ l, ∃ y, f x = .ok y := by
  induction l generalizing ys with
  | nil => exact List.forall_mem_nil _
  | cons x l ih =>
      rw [List.filterMapM_cons] at h
      obtain ⟨y, hy, h⟩ := bind_eq_ok.1 h
      refine List.forall_mem_cons.2 ⟨⟨y, hy⟩, ?_⟩
      cases y with
      | none => exact ih h
      | some y =>
          obtain ⟨rest, hrest, -⟩ := bind_eq_ok.1 h
          exact ih hrest

end ImageryJobs
