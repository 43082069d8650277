import Mathlib.Data.List.Basic

/-!
Orders of entries in a log. `FollowedBy` says that one kind of entry always has one of another
kind after it, `PrecededBy` that it always has one before it, and `Since` and `Until` that nothing
but entries of one kind came after or before an entry of another.
-/

namespace ImageryJobs

universe u
variable {α : Type u} {P Q P' Q' : α → Prop} {l m : List α}

/-- Every entry with `P` has an entry with `Q` somewhere after it. -/
def FollowedBy (P Q : α → Prop) (l : List α) : Prop :=
  ∀ before x after, l = before ++ x :: after → P x → ∃ y ∈ after, Q y

/-- Every entry with `P` has an entry with `Q` somewhere before it. -/
def PrecededBy (P Q : α → Prop) (l : List α) : Prop :=
  ∀ before x after, l = before ++ x :: after → P x → ∃ y ∈ before, Q y

/-- Every entry stands to the entries before it as said. -/
def Justified (R : List α → α → Prop) (l : List α) : Prop :=
  ∀ before x after, l = before ++ x :: after → R before x

/-- There is an entry with `Q` after which all entries have `P`. -/
def Since (P Q : α → Prop) (l : List α) : Prop :=
  ∃ before x after, l = before ++ x :: after ∧ Q x ∧ ∀ y ∈ after, P y

/-- There is an entry with `Q` before which all entries have `P`. -/
def Until (P Q : α → Prop) (l : List α) : Prop :=
  ∃ before x after, l = before ++ x :: after ∧ Q x ∧ ∀ y ∈ before, P y

theorem append_eq_split {before after : List α} {x : α} (h : l ++ m = before ++ x :: after) :
    (∃ rest, l = before ++ x :: rest ∧ after = rest ++ m) ∨
      ∃ rest, before = l ++ rest ∧ m = rest ++ x :: after := by
  obtain ⟨rest, rfl, hm⟩ | ⟨rest, rfl, hx⟩ := List.append_eq_append_iff.1 h
  · exact .inr ⟨rest, rfl, hm⟩
  · cases rest with
    | nil => exact .inr ⟨[], by simp, by simpa using hx.symm⟩
    | cons y rest =>
        obtain ⟨rfl, rfl⟩ := List.cons.inj hx
        exact .inl ⟨rest, rfl, rfl⟩

theorem followedBy_of_forall_not (h : ∀ x ∈ l, ¬ P x) : FollowedBy P Q l := by
  intro before x after heq hx
  subst heq
  exact absurd hx (h x (by simp))

theorem FollowedBy.append (hl : FollowedBy P Q l) (hm : FollowedBy P Q m) :
    FollowedBy P Q (l ++ m) := by
  intro before x after h hx
  obtain ⟨rest, hl', rfl⟩ | ⟨rest, rfl, hm'⟩ := append_eq_split h
  · obtain ⟨y, hy, hq⟩ := hl before x rest hl' hx
    exact ⟨y, by simp [hy], hq⟩
  · exact hm rest x after hm' hx

theorem FollowedBy.append_of_exists (hm : FollowedBy P Q m) (h : ∃ y ∈ m, Q y) :
    FollowedBy P Q (l ++ m) := by
  intro before x after h' hx
  obtain ⟨rest, _, rfl⟩ | ⟨rest, rfl, hm'⟩ := append_eq_split h'
  · obtain ⟨y, hy, hq⟩ := h
    exact ⟨y, by simp [hy], hq⟩
  · exact hm rest x after hm' hx

theorem PrecededBy.of_append (h : PrecededBy P Q (l ++ m)) : PrecededBy P Q l := by
  intro before x after hl hx
  exact h before x (after ++ m) (by simp [hl]) hx

theorem Justified.append {R : List α → α → Prop} (hl : Justified R l)
    (hm : ∀ before, ∀ x ∈ m, R (l ++ before) x) : Justified R (l ++ m) := by
  intro before x after h
  obtain ⟨rest, rfl, -⟩ | ⟨rest, rfl, rfl⟩ := append_eq_split h
  · exact hl before x rest rfl
  · exact hm rest x (by simp)

theorem Until.append (h : Until P Q l) : Until P Q (l ++ m) := by
  obtain ⟨before, x, after, rfl, hx, hb⟩ := h
  exact ⟨before, x, after ++ m, by simp, hx, hb⟩

theorem until_of_exists (h : ∃ x ∈ l, Q x) (hp : ∀ x ∈ l, P x) : Until P Q l := by
  obtain ⟨x, hx, hq⟩ := h
  obtain ⟨before, after, rfl⟩ := List.append_of_mem hx
  exact ⟨before, x, after, rfl, hq, fun y hy => hp y (by simp [hy])⟩

/-- What does not come until an entry of another kind always has one before it. -/
theorem Until.precededBy (h : Until (fun x => ¬ P x) Q l) (hpq : ∀ x, Q x → ¬ P x) :
    PrecededBy P Q l := by
  obtain ⟨before, x, after, rfl, hx, hb⟩ := h
  intro before' y after' heq hy
  obtain ⟨rest, hl, -⟩ | ⟨rest, rfl, hr⟩ := append_eq_split heq
  · exact absurd hy (hb y (by simp [hl]))
  · cases rest with
    | nil =>
        obtain ⟨rfl, -⟩ := List.cons.inj hr
        exact absurd hy (hpq _ hx)
    | cons z rest =>
        obtain ⟨rfl, -⟩ := List.cons.inj hr
        exact ⟨x, by simp, hx⟩

theorem Since.append (hl : Since P Q l) (hm : ∀ y ∈ m, P y) : Since P Q (l ++ m) := by
  obtain ⟨before, x, after, rfl, hx, ha⟩ := hl
  refine ⟨before, x, after ++ m, by simp, hx, ?_⟩
  intro y hy
  obtain hy | hy := List.mem_append.1 hy
  · exact ha y hy
  · exact hm y hy

theorem Since.append_left (hm : Since P Q m) : Since P Q (l ++ m) := by
  obtain ⟨before, x, after, rfl, h⟩ := hm
  exact ⟨l ++ before, x, after, by simp, h⟩

theorem Since.mono (h : Since P Q l) (hp : ∀ x, P x → P' x) (hq : ∀ x, Q x → Q' x) :
    Since P' Q' l := by
  obtain ⟨before, x, after, hl, hx, ha⟩ := h
  exact ⟨before, x, after, hl, hq x hx, fun y hy => hp y (ha y hy)⟩

end ImageryJobs
