/-!
Finite maps with their entries in ascending key order, so that a map has one representation.
`get?_insert` says what an insertion does to the look-ups, `get?_eq_some_iff` what a look-up
says about the entries.
-/

namespace ImageryJobs

universe u v w

/-- A finite map from `κ` to `α`, entries ascending by key. -/
structure Dict (κ : Type u) (α : Type v) [LT κ] where
  /-- The entries in ascending key order. -/
  entries : List (κ × α)
  /-- No key stands before a key that is not greater. -/
  ascending : entries.Pairwise fun a b => a.1 < b.1

namespace Dict

variable {κ : Type u} {α : Type v} {β : Type w}

section Basic

variable [LT κ]

theorem ext_entries {d e : Dict κ α} (h : d.entries = e.entries) : d = e := by
  cases d; cases e; cases h; rfl

instance [DecidableEq κ] [DecidableEq α] : DecidableEq (Dict κ α) := fun d e =>
  if h : d.entries = e.entries then isTrue (ext_entries h)
  else isFalse fun h' => h (h' ▸ rfl)

/-- The map without entries. -/
def empty : Dict κ α := ⟨[], .nil⟩

instance : EmptyCollection (Dict κ α) := ⟨empty⟩
instance : Inhabited (Dict κ α) := ⟨empty⟩

/-- The keys in ascending order. -/
def keys (d : Dict κ α) : List κ := d.entries.map Prod.fst

/-- The values in ascending order of their keys. -/
def values (d : Dict κ α) : List α := d.entries.map Prod.snd

/-- The number of entries. -/
def size (d : Dict κ α) : Nat := d.entries.length

def isEmpty (d : Dict κ α) : Bool := d.entries.isEmpty

/-- The value of the first entry with this key. -/
def lookup [DecidableEq κ] (k : κ) : List (κ × α) → Option α
  | [] => none
  | (k', v) :: rest => if k = k' then some v else lookup k rest

/-- The value stored under a key. -/
def get? [DecidableEq κ] (d : Dict κ α) (k : κ) : Option α := lookup k d.entries

@[simp] theorem get?_empty [DecidableEq κ] (k : κ) : (empty : Dict κ α).get? k = none := rfl

def contains [DecidableEq κ] (d : Dict κ α) (k : κ) : Bool := (d.get? k).isSome

/-- Keeps the entries that satisfy `p`. -/
def filter (p : κ → α → Bool) (d : Dict κ α) : Dict κ α :=
  ⟨d.entries.filter fun e => p e.1 e.2, d.ascending.filter _⟩

/-- Removes a key. -/
def erase [DecidableEq κ] (d : Dict κ α) (k : κ) : Dict κ α := d.filter fun k' _ => k' ≠ k

/-- Applies `f` to every value. -/
def map (f : κ → α → β) (d : Dict κ α) : Dict κ β :=
  ⟨d.entries.map fun e => (e.1, f e.1 e.2), List.pairwise_map.2 d.ascending⟩

end Basic

section Ordered

variable [LT κ] [DecidableLT κ] [LE κ] [Std.IsLinearOrder κ] [Std.LawfulOrderLT κ]

/-- Puts a value under a key in an ascending list, in place of an earlier one. -/
def insertEntry (k : κ) (v : α) : List (κ × α) → List (κ × α)
  | [] => [(k, v)]
  | (k', v') :: rest =>
      if k < k' then (k, v) :: (k', v') :: rest
      else if k' < k then (k', v') :: insertEntry k v rest
      else (k', v) :: rest

omit [LE κ] [Std.IsLinearOrder κ] [Std.LawfulOrderLT κ] in
theorem mem_insertEntry {k : κ} {v : α} {l : List (κ × α)} {e : κ × α}
    (h : e ∈ insertEntry k v l) : e.1 = k ∨ ∃ e' ∈ l, e'.1 = e.1 := by
  induction l with
  | nil => simp [insertEntry] at h; simp [h]
  | cons x rest ih =>
      obtain ⟨k', v'⟩ := x
      rw [insertEntry] at h
      split at h
      · simp only [List.mem_cons] at h
        rcases h with h | h | h
        · simp [h]
        · simp [h]
        · exact .inr ⟨e, by simp [h], rfl⟩
      · split at h
        · simp only [List.mem_cons] at h
          rcases h with h | h
          · simp [h]
          · rcases ih h with h | ⟨e', h, h'⟩
            · exact .inl h
            · exact .inr ⟨e', by simp [h], h'⟩
        · simp only [List.mem_cons] at h
          rcases h with h | h
          · simp [h]
          · exact .inr ⟨e, by simp [h], rfl⟩

theorem pairwise_insertEntry {k : κ} {v : α} {l : List (κ × α)}
    (h : l.Pairwise fun a b => a.1 < b.1) :
    (insertEntry k v l).Pairwise fun a b => a.1 < b.1 := by
  induction l with
  | nil => simp [insertEntry]
  | cons x rest ih =>
      obtain ⟨k', v'⟩ := x
      have hrest := List.pairwise_cons.1 h
      rw [insertEntry]
      split
      · rename_i hk
        refine List.pairwise_cons.2 ⟨?_, h⟩
        intro e he
        rcases List.mem_cons.1 he with rfl | he
        · exact hk
        · exact Std.lt_trans hk (hrest.1 e he)
      · split
        · rename_i hk
          refine List.pairwise_cons.2 ⟨?_, ih hrest.2⟩
          intro e he
          rcases mem_insertEntry he with h' | ⟨e', he', h'⟩
          · exact h' ▸ hk
          · exact h' ▸ hrest.1 e' he'
        · exact List.pairwise_cons.2 ⟨hrest.1, hrest.2⟩

/-- Puts a value under a key, in place of an earlier one. -/
def insert (d : Dict κ α) (k : κ) (v : α) : Dict κ α :=
  ⟨insertEntry k v d.entries, pairwise_insertEntry d.ascending⟩

/-- The map of a list of entries. Of two entries with one key the later stands. -/
def ofList (l : List (κ × α)) : Dict κ α := l.foldl (fun d e => d.insert e.1 e.2) empty

variable [DecidableEq κ]

/-- Puts a value under a key that has none; a key that is present keeps its value. -/
def insertNew (d : Dict κ α) (k : κ) (v : α) : Dict κ α :=
  if d.contains k then d else d.insert k v

/-- Changes the value under a key, if there is one. -/
def modify (d : Dict κ α) (k : κ) (f : α → α) : Dict κ α :=
  d.map fun k' v => if k' = k then f v else v

/-- All entries of both maps; a key of both keeps its value from `d`. -/
def union (d e : Dict κ α) : Dict κ α := e.entries.foldl (fun d x => d.insertNew x.1 x.2) d

theorem lookup_insertEntry (k k' : κ) (v : α) {l : List (κ × α)}
    (h : l.Pairwise fun a b => a.1 < b.1) :
    lookup k' (insertEntry k v l) = if k' = k then some v else lookup k' l := by
  induction l with
  | nil => rfl
  | cons x rest ih =>
      obtain ⟨k₀, v₀⟩ := x
      have hrest := List.pairwise_cons.1 h
      rw [insertEntry]
      split
      · simp only [lookup]
      · split
        · rename_i hk
          simp only [lookup, ih hrest.2]
          split
          · rename_i h₀
            subst h₀
            rw [if_neg]
            intro h'
            exact Std.lt_irrefl (h' ▸ hk)
          · rfl
        · rename_i h₁ h₂
          have : k₀ = k := Std.le_antisymm (Std.not_lt.1 h₁) (Std.not_lt.1 h₂)
          subst this
          simp only [lookup]
          split <;> rfl

@[simp] theorem get?_insert (d : Dict κ α) (k k' : κ) (v : α) :
    (d.insert k v).get? k' = if k' = k then some v else d.get? k' :=
  lookup_insertEntry k k' v d.ascending

omit [DecidableLT κ] [Std.IsLinearOrder κ] in
theorem lookup_eq_some_iff [Std.IsPreorder κ] {l : List (κ × α)} {k : κ} {v : α}
    (h : l.Pairwise fun a b => a.1 < b.1) : lookup k l = some v ↔ (k, v) ∈ l := by
  induction l with
  | nil => simp [lookup]
  | cons x rest ih =>
      obtain ⟨k₀, v₀⟩ := x
      have hrest := List.pairwise_cons.1 h
      rw [lookup]
      split
      · rename_i h₀
        subst h₀
        simp only [Option.some.injEq, List.mem_cons, Prod.mk.injEq, true_and]
        constructor
        · intro hv; exact .inl hv.symm
        · rintro (hv | hm)
          · exact hv.symm
          · exact absurd (hrest.1 _ hm) Std.lt_irrefl
      · rename_i h₀
        simp [ih hrest.2, h₀]

omit [DecidableLT κ] in
/-- A key has the value of its entry. -/
theorem get?_eq_some_iff {d : Dict κ α} {k : κ} {v : α} :
    d.get? k = some v ↔ (k, v) ∈ d.entries :=
  lookup_eq_some_iff d.ascending

end Ordered

end Dict
end ImageryJobs
