import ImageryJobs.Json.Basic

/-!
Looking into maps and objects that were made from lists.
-/

namespace ImageryJobs

universe u v

namespace Dict

variable {κ : Type u} {α : Type v}

@[simp] theorem get?_erase [LT κ] [DecidableEq κ] (d : Dict κ α) (k k' : κ) :
    (d.erase k).get? k' = if k' = k then none else d.get? k' := by
  have look : ∀ l : List (κ × α), lookup k' (l.filter fun e => e.1 ≠ k) =
      if k' = k then none else lookup k' l := by
    intro l
    induction l with
    | nil => simp [lookup]
    | cons e l ih =>
        by_cases he : e.1 = k
        · rw [List.filter_cons_of_neg (by simpa using he), ih, lookup, he]
          split <;> rfl
        · rw [List.filter_cons_of_pos (by simpa using he), lookup, lookup, ih]
          by_cases hk : k' = k
          · rw [if_neg fun heq => he (heq.symm.trans hk), if_pos hk, if_pos hk]
          · rw [if_neg hk, if_neg hk]
  exact look d.entries

variable [LT κ] [DecidableLT κ] [LE κ] [Std.IsLinearOrder κ] [Std.LawfulOrderLT κ]

omit [LE κ] [Std.IsLinearOrder κ] [Std.LawfulOrderLT κ] in
theorem insertEntry_of_forall_lt {k : κ} {v : α} {l : List (κ × α)}
    (h : ∀ e ∈ l, e.1 < k ∧ ¬ k < e.1) : insertEntry k v l = l ++ [(k, v)] := by
  induction l with
  | nil => rfl
  | cons e l ih =>
      rw [insertEntry, if_neg (h e (by simp)).2, if_pos (h e (by simp)).1,
        ih fun e' he' => h e' (by simp [he'])]
      rfl

theorem ofList_entries (d : Dict κ α) : ofList d.entries = d := by
  have build : ∀ (l : List (κ × α)) (acc : Dict κ α),
      (acc.entries ++ l).Pairwise (fun a b => a.1 < b.1) →
      (l.foldl (fun d e => d.insert e.1 e.2) acc).entries = acc.entries ++ l := by
    intro l
    induction l with
    | nil => simp
    | cons e l ih =>
        intro acc h
        have hins : (acc.insert e.1 e.2).entries = acc.entries ++ [e] := by
          apply insertEntry_of_forall_lt
          intro e' he'
          have hlt := (List.pairwise_append.1 h).2.2 e' he' e (by simp)
          exact ⟨hlt, fun hgt => Std.lt_irrefl (Std.lt_trans hlt hgt)⟩
        rw [List.foldl_cons, ih _ (by rw [hins]; simpa using h), hins]
        simp
  exact ext_entries (build d.entries empty (by simpa [empty] using d.ascending))

variable [DecidableEq κ]

@[simp] theorem get?_insertNew (d : Dict κ α) (k k' : κ) (v : α) :
    (d.insertNew k v).get? k' = (d.get? k').or (if k' = k then some v else none) := by
  rw [insertNew]
  by_cases hc : d.contains k
  · rw [if_pos hc]
    by_cases hk : k' = k
    · obtain ⟨w, hw⟩ := Option.isSome_iff_exists.1 hc
      simp [hk, hw]
    · simp [hk]
  · have hnone : d.get? k = none := Option.not_isSome_iff_eq_none.1 hc
    rw [if_neg hc, get?_insert]
    by_cases hk : k' = k <;> simp [hk, hnone]

@[simp] theorem get?_union (d e : Dict κ α) (k : κ) :
    (d.union e).get? k = (d.get? k).or (e.get? k) := by
  have add : ∀ (l : List (κ × α)) (d : Dict κ α),
      (l.foldl (fun d x => d.insertNew x.1 x.2) d).get? k = (d.get? k).or (lookup k l) := by
    intro l
    induction l with
    | nil => simp [lookup]
    | cons x l ih =>
        intro d
        rw [List.foldl_cons, ih, get?_insertNew, Option.or_assoc, lookup]
        split <;> rfl
  exact add e.entries d

omit [DecidableLT κ] [LE κ] [Std.IsLinearOrder κ] [Std.LawfulOrderLT κ] in
@[simp] theorem get?_map {β : Type v} (d : Dict κ α) (f : κ → α → β) (k : κ) :
    (d.map f).get? k = (d.get? k).map (f k) := by
  have look : ∀ l : List (κ × α),
      lookup k (l.map fun e => (e.1, f e.1 e.2)) = (lookup k l).map (f k) := by
    intro l
    induction l with
    | nil => rfl
    | cons e l ih =>
        rw [List.map_cons, lookup, lookup]
        by_cases hk : k = e.1
        · rw [if_pos hk, if_pos hk, hk]
          rfl
        · rw [if_neg hk, if_neg hk, ih]
  exact look d.entries

theorem perm_insert_of_get?_none {d : Dict κ α} {k : κ} (h : d.get? k = none) (v : α) :
    (d.insert k v).entries.Perm ((k, v) :: d.entries) := by
  have put : ∀ l : List (κ × α), lookup k l = none → (insertEntry k v l).Perm ((k, v) :: l) := by
    intro l
    induction l with
    | nil => exact fun _ => .refl _
    | cons e l ih =>
        intro hl
        rw [lookup] at hl
        split at hl
        · cases hl
        rename_i hne
        rw [insertEntry]
        split
        · exact .refl _
        · split
          · exact ((ih hl).cons e).trans (.swap ..)
          · rename_i h₁ h₂
            exact absurd (Std.le_antisymm (Std.not_lt.1 h₂) (Std.not_lt.1 h₁)) hne
  exact put d.entries h

omit [DecidableLT κ] in
/-- A map has the entry of a key and the entries of the others. -/
theorem perm_erase_of_get? {d : Dict κ α} {k : κ} {v : α} (h : d.get? k = some v) :
    d.entries.Perm ((k, v) :: (d.erase k).entries) := by
  have part : ∀ l : List (κ × α), l.Pairwise (fun a b => a.1 < b.1) → (k, v) ∈ l →
      l.Perm ((k, v) :: l.filter fun e => e.1 ≠ k) := by
    intro l
    induction l with
    | nil => simp
    | cons e l ih =>
        intro ascending hm
        obtain ⟨hlt, ascending⟩ := List.pairwise_cons.1 ascending
        obtain rfl | hm := List.mem_cons.1 hm
        · have later : ∀ e ∈ l, e.1 ≠ k := fun e he heq => Std.lt_irrefl (heq ▸ hlt e he)
          rw [List.filter_cons_of_neg (by simp), List.filter_eq_self.2 (by simpa using later)]
        · have hek : e.1 ≠ k := fun heq => Std.lt_irrefl (heq ▸ hlt _ hm)
          rw [List.filter_cons_of_pos (by simpa using hek)]
          exact ((ih ascending hm).cons e).trans (.swap ..)
  exact part d.entries d.ascending (get?_eq_some_iff.1 h)

omit [DecidableLT κ] in
/-- A map is what its look-ups find. -/
theorem ext_get? {d e : Dict κ α} (h : ∀ k, d.get? k = e.get? k) : d = e := by
  have same : ∀ x : κ × α, x ∈ d.entries ↔ x ∈ e.entries := by
    rintro ⟨k, v⟩
    rw [← get?_eq_some_iff, ← get?_eq_some_iff, h]
  have distinct (d : Dict κ α) : d.entries.Pairwise (· ≠ ·) := by
    refine d.ascending.imp ?_
    rintro a _ hlt rfl
    exact Std.lt_irrefl hlt
  refine ext_entries (List.Perm.eq_of_pairwise
    (fun _ _ _ _ hlt hgt => absurd (Std.lt_trans hlt hgt) Std.lt_irrefl)
    d.ascending e.ascending ?_)
  exact (List.perm_ext_iff_of_nodup (distinct d) (distinct e)).2 same

theorem empty_union (d : Dict κ α) : (∅ : Dict κ α).union d = d :=
  ext_get? fun k => by rw [get?_union, show (∅ : Dict κ α).get? k = none from rfl, Option.none_or]

theorem union_assoc (d e f : Dict κ α) : (d.union e).union f = d.union (e.union f) :=
  ext_get? fun k => by simp [Option.or_assoc]

theorem union_insertNew (d e : Dict κ α) (k : κ) (v : α) :
    (d.union e).insertNew k v = d.union (e.insertNew k v) :=
  ext_get? fun k => by simp [Option.or_assoc]

/-- Maps without a common key go before others in either order. -/
theorem union_left_comm {d e : Dict κ α} (h : ∀ k, d.get? k = none ∨ e.get? k = none)
    (f : Dict κ α) : d.union (e.union f) = e.union (d.union f) := by
  refine ext_get? fun k => ?_
  obtain h | h := h k <;> simp [h]

omit [DecidableLT κ] [DecidableEq κ] [Std.IsLinearOrder κ] in
theorem nodup_keys (d : Dict κ α) : d.keys.Nodup := by
  refine (List.pairwise_map.2 d.ascending).imp fun hlt heq => ?_
  exact Std.lt_irrefl (heq ▸ hlt)

omit [DecidableLT κ] in
theorem mem_keys {d : Dict κ α} {k : κ} : k ∈ d.keys ↔ (d.get? k).isSome = true := by
  rw [keys, List.mem_map, Option.isSome_iff_exists]
  constructor
  · rintro ⟨e, he, rfl⟩
    exact ⟨e.2, get?_eq_some_iff.2 he⟩
  · rintro ⟨v, hv⟩
    exact ⟨(k, v), get?_eq_some_iff.1 hv, rfl⟩

theorem get?_ofList_nil (k : κ) : (ofList ([] : List (κ × α))).get? k = none := rfl

/-- Of entries with one key the last stands. -/
theorem get?_ofList_cons (e : κ × α) (l : List (κ × α)) (k : κ) :
    (ofList (e :: l)).get? k = ((ofList l).get? k).or (if k = e.1 then some e.2 else none) := by
  have last : ∀ (l : List (κ × α)) (d : Dict κ α),
      (l.foldl (fun d e => d.insert e.1 e.2) d).get? k = ((ofList l).get? k).or (d.get? k) := by
    intro l
    induction l with
    | nil => exact fun _ => rfl
    | cons e l ih =>
        intro d
        have first := ih (empty.insert e.1 e.2)
        change (ofList (e :: l)).get? k = _ at first
        rw [List.foldl_cons, ih, first, Option.or_assoc, get?_insert, get?_insert]
        congr 1
        split <;> rfl
  have first := last l (empty.insert e.1 e.2)
  change (ofList (e :: l)).get? k = _ at first
  rw [first, get?_insert, get?_empty]

theorem get?_ofList_append (l l' : List (κ × α)) (k : κ) :
    (ofList (l ++ l')).get? k = ((ofList l').get? k).or ((ofList l).get? k) := by
  induction l with
  | nil => exact (Option.or_none).symm
  | cons e l ih => rw [List.cons_append, get?_ofList_cons, get?_ofList_cons, ih, Option.or_assoc]

theorem mem_of_get?_ofList {l : List (κ × α)} {k : κ} {v : α} (h : (ofList l).get? k = some v) :
    (k, v) ∈ l := by
  induction l with
  | nil => cases h
  | cons e l ih =>
      rw [get?_ofList_cons, Option.or_eq_some_iff] at h
      obtain h | ⟨-, h⟩ := h
      · exact List.mem_cons_of_mem _ (ih h)
      · split at h
        · rename_i hk
          cases h
          exact hk ▸ List.mem_cons_self
        · cases h

end Dict

namespace Json

@[simp] theorem members?_ofMembers (d : Members) : (ofMembers d).members? = some d :=
  congrArg some (Dict.ofList_entries d)

theorem get?_mk (members : List (String × Json)) (key : String) :
    (mk members).get? key = (Dict.ofList members).get? key := by
  simp [mk, get?]

end Json
end ImageryJobs
