import ImageryJobs.Json.Schema
import ImageryJobs.Proofs.Failing
import ImageryJobs.Proofs.Json.RoundTrip

/-!
Reading values back from their JSON form. `Reads` says that a form is read as a value at every depth
that the form needs, `Yields` what is known of every value that is read. Both follow the ways in which
schemas are built; of a record it is enough to know its fields one by one.
-/

namespace ImageryJobs.Json

variable {α : Type} {s : Schema α} {write : α → Json} {x : α}

/-! ### Depth and order of parts -/

theorem depthOf_le {items : List Json} {n : Nat} :
    depthOf items ≤ n ↔ ∀ j ∈ items, depth j ≤ n := by
  induction items with
  | nil => simp [depthOf]
  | cons j items ih => simp [depthOf, Nat.max_le, ih]

theorem depthIn_le {members : List (String × Json)} {n : Nat} :
    depthIn members ≤ n ↔ ∀ m ∈ members, depth m.2 ≤ n := by
  induction members with
  | nil => simp [depthIn]
  | cons m members ih => simp [depthIn, Nat.max_le, ih]

theorem ascendingIn_iff {members : List (String × Json)} :
    AscendingIn members ↔ ∀ m ∈ members, Ascending m.2 := by
  induction members with
  | nil => simp [AscendingIn]
  | cons m members ih => simp [AscendingIn, ih]

theorem itemsToRaw_eq_map (items : List Json) : itemsToRaw items = items.map toRaw := by
  induction items with
  | nil => rfl
  | cons j items ih => rw [itemsToRaw, ih, List.map_cons]

theorem membersToRaw_eq_map (members : List (String × Json)) :
    membersToRaw members = members.map fun m => (some m.1, toRaw m.2) := by
  induction members with
  | nil => rfl
  | cons m members ih => rw [membersToRaw, ih, List.map_cons]

/-! ### What is read of a form -/

/-- A form is read as a value wherever it is not nested too deep. -/
def Reads (s : Schema α) (j : Json) (x : α) : Prop :=
  ∀ n, j.depth ≤ n → s n j.toRaw = some x

theorem reads_string (text : String) : Reads .string (.string text) text := fun _ _ => rfl

theorem reads_bool (b : Bool) : Reads .bool (.bool b) b := fun _ _ => rfl

theorem reads_natBelow {bound k : Nat} (h : k < bound) : Reads (.natBelow bound) (.ofNat k) k := by
  intro n _
  change (if (0 : Int) ≤ k ∧ (k : Int) < bound then some (k : Int).toNat else none) = some k
  rw [if_pos ⟨Int.natCast_nonneg k, Int.ofNat_lt.2 h⟩, Int.toNat_natCast]

theorem reads_choice {named : String → Option α} {name : String} (h : named name = some x) :
    Reads (.choice named) (.string name) x := by
  intro n _
  cases n <;> exact h

mutual

theorem toJson?_toRaw : ∀ (j : Json) (n : Nat), Ascending j → depth j ≤ n →
    Raw.toJson? n j.toRaw = some j
  | .null, _, _, _ | .bool _, _, _, _ | .string _, _, _, _ | .number _, _, _, _ => rfl
  | .array items, n + 1, hs, hd => by
      rw [toRaw, Raw.toJson?, itemsToJson?_toRaw items n hs (Nat.le_of_succ_le_succ hd)]
      rfl
  | .object members, n + 1, hs, hd => by
      rw [toRaw, Raw.toJson?, membersToJson?_toRaw members n hs.2 (Nat.le_of_succ_le_succ hd)]
      exact congrArg (fun d : Members => some (Json.ofMembers d)) (Dict.ofList_entries ⟨members, hs.1⟩)

theorem itemsToJson?_toRaw : ∀ (items : List Json) (n : Nat), AscendingOf items → depthOf items ≤ n →
    Raw.itemsToJson? n (itemsToRaw items) = some items
  | [], _, _, _ => rfl
  | x :: xs, n, hs, hd => by
      have first := toJson?_toRaw x n hs.1 (Nat.le_trans (Nat.le_max_left _ _) hd)
      have rest := itemsToJson?_toRaw xs n hs.2 (Nat.le_trans (Nat.le_max_right _ _) hd)
      simp [itemsToRaw, Raw.itemsToJson?, first, rest]

theorem membersToJson?_toRaw : ∀ (members : List (String × Json)) (n : Nat), AscendingIn members →
    depthIn members ≤ n → Raw.membersToJson? n (membersToRaw members) = some members
  | [], _, _, _ => rfl
  | (key, x) :: xs, n, hs, hd => by
      have first := toJson?_toRaw x n hs.1 (Nat.le_trans (Nat.le_max_left _ _) hd)
      have rest := membersToJson?_toRaw xs n hs.2 (Nat.le_trans (Nat.le_max_right _ _) hd)
      simp [membersToRaw, Raw.membersToJson?, first, rest]

end

/-- A value in which the members of objects are in order is read as itself. -/
theorem reads_any {j : Json} (h : Ascending j) : Reads .any j j :=
  fun n hn => toJson?_toRaw j n h hn

theorem reads_none : Reads (.option s) .null none := fun _ _ => rfl

/-- A value that null does not stand for may also be given where it may be missing. -/
theorem reads_some {j : Json} (h : Reads s j x) (solid : j ≠ .null) : Reads (.option s) j (some x) := by
  intro n hn
  have read := h n hn
  cases j with
  | null => exact absurd rfl solid
  | bool _ | number _ | string _ | array _ | object _ => exact congrArg (Option.map some) read

/-- Where null is not read, no value is written as null. -/
theorem Reads.ne_null {j : Json} (h : Reads s j x) (solid : ∀ n, s n .null = none) : j ≠ .null := by
  rintro rfl
  have read : s 0 .null = some x := h 0 (Nat.le_refl 0)
  rw [solid] at read
  cases read

theorem reads_list {xs : List α} (h : ∀ x ∈ xs, Reads s (write x) x) :
    Reads (.list s) (.ofList xs write) xs
  | n + 1, hn => by
      change (itemsToRaw (xs.map write)).mapM (s n) = some xs
      rw [itemsToRaw_eq_map, List.map_map]
      have shallow := depthOf_le.1 (Nat.le_of_succ_le_succ hn)
      exact mapM_map fun x hx => h x hx n (shallow _ (List.mem_map_of_mem hx))

/-- The members of a map are read one by one. -/
theorem mapM_membersToRaw {d : Dict String α} {n : Nat}
    (h : ∀ key x, d.get? key = some x → Reads s (write x) x)
    (hn : depthIn (d.map fun _ x => write x).entries ≤ n) :
    (membersToRaw (d.map fun _ x => write x).entries).mapM (fun m => do
      let key ← m.1
      let value ← s n m.2
      return (key, value)) = some d.entries := by
  have shallow := depthIn_le.1 hn
  rw [membersToRaw_eq_map, Dict.map, List.map_map]
  refine mapM_map fun e he => ?_
  have value := h e.1 e.2 (Dict.get?_eq_some_iff.2 he) n (shallow _ (List.mem_map.2 ⟨e, he, rfl⟩))
  simp [value]

theorem reads_dict {d : Dict String α} (h : ∀ key x, d.get? key = some x → Reads s (write x) x) :
    Reads (.dict s) (.ofDict d write) d
  | n + 1, hn => by
      have members := mapM_membersToRaw h (Nat.le_of_succ_le_succ hn)
      rw [ofDict, ofMembers, toRaw, Schema.dict, members]
      exact congrArg some (Dict.ofList_entries d)

/-- The members of an object are read as they are. -/
theorem reads_members {d : Members} (h : ∀ key j, d.get? key = some j → Ascending j) :
    Reads (.dict .any) (.ofMembers d) d := by
  have same : d.map (fun _ j => id j) = d := Dict.ext_entries (List.map_id d.entries)
  have read : Reads (.dict .any) (.ofDict d id) d := reads_dict fun key j hj => reads_any (h key j hj)
  rwa [ofDict, same] at read

theorem reads_option {o : Option α} (h : ∀ x, o = some x → Reads s (write x) x ∧ write x ≠ .null) :
    Reads (.option s) (.ofOption o write) o := by
  cases o with
  | none => exact reads_none
  | some x => exact reads_some (h x rfl).1 (h x rfl).2

/-! ### Members of a form -/

theorem get?_memberIf (key k : String) (o : Option α) :
    (Dict.ofList (memberIf key o write)).get? k = if k = key then o.map write else none := by
  cases o with
  | none => exact (ite_self none).symm
  | some x => exact (Dict.get?_ofList_cons ..).trans (Option.none_or)

/-- Only the member of that name is looked at. -/
theorem uniqueMember_toRaw (d : Members) (name : String) :
    Schema.uniqueMember (membersToRaw d.entries) name =
      some (((d.get? name).map fun j => Schema.Field.given j.toRaw).getD .absent) := by
  have search : ∀ l : List (String × Json), l.Pairwise (fun a b => a.1 < b.1) →
      (membersToRaw l).filter (·.1 = some name) =
        ((Dict.lookup name l).map fun j => (some name, j.toRaw)).toList := by
    intro l
    induction l with
    | nil => exact fun _ => rfl
    | cons m l ih =>
        intro ascending
        obtain ⟨lt, ascending⟩ := List.pairwise_cons.1 ascending
        have rest := ih ascending
        rw [membersToRaw, Dict.lookup]
        by_cases hm : name = m.1
        -- Names ascend, so that no later member has this one.
        · have later : (membersToRaw l).filter (·.1 = some name) = [] := by
            rw [membersToRaw_eq_map, List.filter_eq_nil_iff, List.forall_mem_map]
            intro e he heq
            have heq : e.1 = m.1 := by simpa [hm] using heq
            exact String.lt_irrefl _ (heq ▸ lt e he)
          rw [List.filter_cons_of_pos (by simp [hm]), later, if_pos hm, hm]
          rfl
        · rw [List.filter_cons_of_neg (by simpa using Ne.symm hm), rest, if_neg hm]
  rw [Schema.uniqueMember, search d.entries d.ascending]
  change _ = some (((Dict.lookup name d.entries).map _).getD _)
  cases Dict.lookup name d.entries <;> rfl

/-- The fields of a record as an object gives them. -/
structure Schema.Fields.Of (f : Fields) (d : Members) : Prop where
  given {name : String} {j : Json} : d.get? name = some j →
    f.field name = .given j.toRaw ∧ j.depth ≤ f.depth
  absent {name : String} : d.get? name = none → f.field name = .absent

theorem Schema.Fields.of_members {d : Members} {n : Nat} (h : depthIn d.entries ≤ n) :
    Of ⟨n, fun name => (uniqueMember (membersToRaw d.entries) name).getD .absent⟩ d where
  given := fun hj => ⟨by simp [uniqueMember_toRaw, hj], depthIn_le.1 h _ (Dict.get?_eq_some_iff.1 hj)⟩
  absent := fun hj => by simp [uniqueMember_toRaw, hj]

theorem record_null {names : List String} {build : Schema.Fields → Option α} (n : Nat) :
    Schema.record names build n .null = none := by
  cases n <;> rfl

/-- A record is read if its fields are, one by one. -/
theorem reads_record {names : List String} {build : Schema.Fields → Option α} {d : Members}
    (h : ∀ f : Schema.Fields, f.Of d → build f = some x) :
    Reads (.record names build) (.ofMembers d) x
  | n + 1, hn => by
      have named : (membersToRaw d.entries).all (·.1.isSome) = true := by
        simp [membersToRaw_eq_map]
      have once : (names.all fun name =>
          (Schema.uniqueMember (membersToRaw d.entries) name).isSome) = true := by
        simp [uniqueMember_toRaw]
      rw [ofMembers, toRaw, Schema.record, named, once]
      exact h _ (Schema.Fields.of_members (Nat.le_of_succ_le_succ hn))

/-! ### Fields -/

namespace Schema.Fields.Of

variable {f : Fields} {d : Members} {name : String} {j : Json} {value : α}

theorem required (hf : f.Of d) (reads : Reads s j x) (h : d.get? name = some j) :
    f.required name s = some x := by
  obtain ⟨given, shallow⟩ := hf.given h
  rw [Fields.required, given]
  exact reads _ shallow

theorem text {text : String} (hf : f.Of d) (h : d.get? name = some (.string text)) :
    f.required name .string = some text :=
  hf.required (reads_string text) h

theorem withDefault (hf : f.Of d) (reads : Reads s j x) (h : d.get? name = some j) :
    f.withDefault name value s = some x := by
  obtain ⟨given, shallow⟩ := hf.given h
  rw [Fields.withDefault, given]
  exact reads _ shallow

theorem optional {o : Option α} (hf : f.Of d) (reads : Reads (.option s) j o)
    (h : d.get? name = some j) : f.optional name s = some o := by
  obtain ⟨given, shallow⟩ := hf.given h
  rw [Fields.optional, given]
  exact reads _ shallow

/-- What is left out where it is the default is read all the same. -/
theorem skipped {skip : Prop} [Decidable skip] (hf : f.Of d) (reads : Reads s j x)
    (default : skip → x = value) (h : d.get? name = if skip then none else some j) :
    f.withDefault name value s = some x := by
  by_cases hs : skip
  · rw [Fields.withDefault, hf.absent (h.trans (if_pos hs)), default hs]
  · exact hf.withDefault reads (h.trans (if_neg hs))

theorem skippedNone {o : Option α} (hf : f.Of d) (reads : ∀ x, o = some x → Reads s (write x) x)
    (solid : ∀ n, s n .null = none) (h : d.get? name = o.map write) :
    f.withDefault name none (.option s) = some o := by
  cases o with
  | none => rw [Fields.withDefault, hf.absent h]
  | some x => exact hf.withDefault (reads_some (reads x rfl) ((reads x rfl).ne_null solid)) h

theorem skippedText {o : Option String} (hf : f.Of d) (h : d.get? name = o.map .string) :
    f.withDefault name none (.option .string) = some o :=
  hf.skippedNone (fun text _ => reads_string text) (fun _ => rfl) h

end Schema.Fields.Of

/-! ### What is known of what is read -/

/-- Every value that is read has `P`. -/
def Yields (s : Schema α) (P : α → Prop) : Prop :=
  ∀ n tree x, s n tree = some x → P x

theorem yields_natBelow (bound : Nat) : Yields (.natBelow bound) (· < bound) := by
  intro n tree k h
  simp only [Schema.natBelow] at h
  split at h
  · split at h
    · rename_i value hv
      cases h
      omega
    · cases h
  · cases h

theorem yields_option {P : α → Prop} (h : Yields s P) :
    Yields (.option s) fun o => ∀ x, o = some x → P x := by
  rintro n tree _ read x rfl
  have given : s n tree = some x := by
    cases tree with
    | null => cases read
    | bool _ | number _ | string _ | array _ | object _ =>
        obtain ⟨y, given, same⟩ := Option.map_eq_some_iff.1 read
        cases same
        exact given
  exact h n tree x given

theorem yields_list {P : α → Prop} (h : Yields s P) : Yields (.list s) fun xs => ∀ x ∈ xs, P x
  | n + 1, .array items, xs, read => fun x hx => by
      obtain ⟨tree, -, read⟩ := exists_of_mem_mapM (l := items) read x hx
      exact h n tree x read

theorem yields_dict {P : α → Prop} (h : Yields s P) :
    Yields (.dict s) fun d => ∀ key x, d.get? key = some x → P x
  | n + 1, .object members, d, read => fun key x hx => by
      obtain ⟨entries, each, same⟩ := Option.bind_eq_some_iff.1 read
      cases same
      obtain ⟨m, -, entry⟩ := exists_of_mem_mapM each (key, x) (Dict.mem_of_get?_ofList hx)
      obtain ⟨name, -, entry⟩ := Option.bind_eq_some_iff.1 entry
      obtain ⟨value, read, same⟩ := Option.bind_eq_some_iff.1 entry
      cases same
      exact h n m.2 x read

mutual

theorem ascending_of_toJson? : ∀ (tree : Raw) (n : Nat) (j : Json),
    Raw.toJson? n tree = some j → Ascending j
  | .null, _, _, h => by
      cases h
      trivial
  | .bool _, _, _, h => by
      cases h
      trivial
  | .number _, _, _, h => by
      obtain ⟨_, -, rfl⟩ := Option.map_eq_some_iff.1 h
      trivial
  | .string _, _, _, h => by
      obtain ⟨_, -, rfl⟩ := Option.map_eq_some_iff.1 h
      trivial
  | .array items, n + 1, _, h => by
      obtain ⟨items', read, rfl⟩ := Option.map_eq_some_iff.1 h
      exact ascendingOf_of_itemsToJson? items n items' read
  | .object members, n + 1, _, h => by
      obtain ⟨members', read, rfl⟩ := Option.map_eq_some_iff.1 h
      refine ⟨(Dict.ofList members').ascending, ascendingIn_iff.2 fun m hm => ?_⟩
      have given := Dict.mem_of_get?_ofList (Dict.get?_eq_some_iff.2 hm)
      exact ascendingIn_iff.1 (ascendingIn_of_membersToJson? members n members' read) _ given

theorem ascendingOf_of_itemsToJson? : ∀ (items : List Raw) (n : Nat) (items' : List Json),
    Raw.itemsToJson? n items = some items' → AscendingOf items'
  | [], _, _, h => by
      cases h
      trivial
  | x :: xs, n, _, h => by
      obtain ⟨j, first, h⟩ := Option.bind_eq_some_iff.1 h
      obtain ⟨js, rest, h⟩ := Option.bind_eq_some_iff.1 h
      cases h
      exact ⟨ascending_of_toJson? x n j first, ascendingOf_of_itemsToJson? xs n js rest⟩

theorem ascendingIn_of_membersToJson? : ∀ (members : List (Option String × Raw)) (n : Nat)
    (members' : List (String × Json)), Raw.membersToJson? n members = some members' →
    AscendingIn members'
  | [], _, _, h => by
      cases h
      trivial
  | (key, x) :: xs, n, _, h => by
      obtain ⟨name, -, h⟩ := Option.bind_eq_some_iff.1 h
      obtain ⟨j, first, h⟩ := Option.bind_eq_some_iff.1 h
      obtain ⟨js, rest, h⟩ := Option.bind_eq_some_iff.1 h
      cases h
      exact ⟨ascending_of_toJson? x n j first, ascendingIn_of_membersToJson? xs n js rest⟩

end

theorem yields_any : Yields .any Ascending := fun n tree j h => ascending_of_toJson? tree n j h

/-- Null is read as no value, and nothing else is read as null. -/
theorem yields_option_any :
    Yields (.option .any) fun o => ∀ j, o = some j → Ascending j ∧ j ≠ .null := by
  rintro n tree _ read j rfl
  refine ⟨yields_option yields_any n tree _ read j rfl, ?_⟩
  rintro rfl
  cases tree <;> cases n <;> simp [Schema.option, Schema.any, Raw.toJson?, mk, ofMembers] at read

theorem yields_record {names : List String} {build : Schema.Fields → Option α} {P : α → Prop}
    (h : ∀ f x, build f = some x → P x) : Yields (.record names build) P
  | n + 1, .object members, x, read => by
      obtain ⟨_, -, read⟩ := Option.bind_eq_some_iff.1 read
      obtain ⟨_, -, read⟩ := Option.bind_eq_some_iff.1 read
      exact h _ x read
  | n + 1, .array items, x, read => by
      obtain ⟨_, -, read⟩ := Option.bind_eq_some_iff.1 read
      exact h _ x read

namespace Schema.Fields

variable {f : Fields} {name : String} {value : α} {P : α → Prop}

theorem required_yields (h : Yields s P) (read : f.required name s = some x) : P x := by
  rw [required] at read
  split at read
  · exact h _ _ _ read
  · cases read

theorem withDefault_yields (h : Yields s P) (default : P value)
    (read : f.withDefault name value s = some x) : P x := by
  rw [withDefault] at read
  split at read
  · exact h _ _ _ read
  · cases read
    exact default

theorem optional_yields {Q : Option α → Prop} {o : Option α} (h : Yields (.option s) Q)
    (missing : Q none) (read : f.optional name s = some o) : Q o := by
  rw [optional] at read
  split at read
  · exact h _ _ _ read
  · cases read
    exact missing
  · cases read

end Schema.Fields

/-! ### Types of documents -/

/-- A type whose values are written as JSON and read from it. -/
structure DocumentType where
  Value : Type
  schema : Schema Value
  write : Value → Json
  /-- What a value is like beyond the types of its fields. -/
  Fits : Value → Prop
  /-- What is taken for granted of the points in time of a value. -/
  Timed : Value → Prop

namespace DocumentType

/-- A type of which the fields say all. -/
def plain (schema : Schema α) (write : α → Json) : DocumentType :=
  ⟨α, schema, write, fun _ => True, fun _ => True⟩

/-- Values are read back, and what is read fits. -/
structure Lawful (t : DocumentType) : Prop where
  reads {x : t.Value} : t.Fits x → t.Timed x → Reads t.schema (t.write x) x
  yields : Yields t.schema t.Fits

theorem lawful_plain (h : ∀ x, Reads s (write x) x) : (plain s write).Lawful where
  reads := fun _ _ => h _
  yields := fun _ _ _ _ => trivial

end DocumentType

end ImageryJobs.Json
