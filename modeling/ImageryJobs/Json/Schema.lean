import ImageryJobs.Json.Raw

/-!
Reading typed values from JSON trees. A record is written as an object or as the array of its
fields in declaration order; unknown members of an object are skipped unread, and a field must
not be given twice. `Schema α` reads an `α` from a tree nested at most so deep.
-/

namespace ImageryJobs.Json

mutual

/-- The tree of a value. -/
def toRaw : Json → Raw
  | .null => .null
  | .bool value => .bool value
  | .number value => .number (some value)
  | .string text => .string (some text)
  | .array items => .array (itemsToRaw items)
  | .object members => .object (membersToRaw members)

def itemsToRaw : List Json → List Raw
  | [] => []
  | x :: xs => toRaw x :: itemsToRaw xs

def membersToRaw : List (String × Json) → List (Option String × Raw)
  | [] => []
  | (key, x) :: xs => (some key, toRaw x) :: membersToRaw xs

end

/-- Reads a value from a tree whose arrays and objects are nested at most so deep. -/
abbrev Schema (α : Type u) := Nat → Raw → Option α

namespace Schema

/-- Reads a value from a text. -/
def read? (s : Schema α) (text : String) : Option α :=
  (Raw.read? text).bind (s Raw.depthLimit)

/-- Reads a value from a JSON value. -/
def ofJson? (s : Schema α) (j : Json) : Option α := s Raw.depthLimit j.toRaw

/-- Any value. -/
def any : Schema Json := Raw.toJson?

def string : Schema String := fun _ r => match r with
  | .string text => text
  | _ => none

def bool : Schema Bool := fun _ r => match r with
  | .bool value => some value
  | _ => none

/-- A natural number below a bound, written as an integer. -/
def natBelow (bound : Nat) : Schema Nat := fun _ r => match r with
  | .number (some (.integer value)) =>
      if 0 ≤ value ∧ value < bound then some value.toNat else none
  | _ => none

/-- Null, or a value. -/
def option (s : Schema α) : Schema (Option α) := fun depth r => match r with
  | .null => some none
  | r => (s depth r).map some

def list (s : Schema α) : Schema (List α) := fun depth r => match depth, r with
  | depth + 1, .array items => items.mapM (s depth)
  | _, _ => none

/-- An object as a map. Of members with one name the last stands; all must be readable. -/
def dict (s : Schema α) : Schema (Dict String α) := fun depth r => match depth, r with
  | depth + 1, .object members => do
      let entries ← members.mapM fun m => do
        let key ← m.1
        let value ← s depth m.2
        return (key, value)
      return Dict.ofList entries
  | _, _ => none

/-- One of several names, as a string or as an object with null under the name. -/
def choice (named : String → Option α) : Schema α := fun depth r => match depth, r with
  | _, .string (some name) => named name
  | _ + 1, .object [(some name, .null)] => named name
  | _, _ => none

/-- A field of a record. -/
inductive Field where
  | given (tree : Raw)
  /-- The object has no such member. -/
  | absent
  /-- The array has fewer elements. -/
  | cut

/-- The fields of a record, and how deep their values may be nested. -/
structure Fields where
  depth : Nat
  field : String → Field

/-- The value of a member that must not be given twice. -/
def uniqueMember (members : List (Option String × Raw)) (name : String) : Option Field :=
  match members.filter (·.1 = some name) with
  | [] => some .absent
  | [(_, tree)] => some (.given tree)
  | _ => none

/-- The element of an array that stands for a field. -/
def elementAt (names : List String) (items : List Raw) (name : String) : Field :=
  match items[names.idxOf name]? with
  | some tree => .given tree
  | none => .cut

/-- A record with the given field names in declaration order. -/
def record (names : List String) (build : Fields → Option α) : Schema α :=
  fun depth r => match depth, r with
    | depth + 1, .object members => do
        guard (members.all (·.1.isSome))
        guard (names.all fun name => (uniqueMember members name).isSome)
        build ⟨depth, fun name => (uniqueMember members name).getD .absent⟩
    | depth + 1, .array items => do
        guard (items.length ≤ names.length)
        build ⟨depth, elementAt names items⟩
    | _, _ => none

namespace Fields

/-- A field that must be given. -/
def required (f : Fields) (name : String) (s : Schema α) : Option α :=
  match f.field name with
  | .given tree => s f.depth tree
  | _ => none

/-- A field that an object may leave out or give as null. -/
def optional (f : Fields) (name : String) (s : Schema α) : Option (Option α) :=
  match f.field name with
  | .given tree => option s f.depth tree
  | .absent => some none
  | .cut => none

/-- A field with a value for when it is left out. -/
def withDefault (f : Fields) (name : String) (value : α) (s : Schema α) : Option α :=
  match f.field name with
  | .given tree => s f.depth tree
  | _ => some value

end Fields
end Schema

/-- A member that is written only if there is a value. -/
def memberIf (key : String) (x : Option α) (f : α → Json) : List (String × Json) :=
  match x with
  | some x => [(key, f x)]
  | none => []

/-- A map as an object. -/
def ofDict (d : Dict String α) (f : α → Json) : Json := ofMembers (d.map fun _ x => f x)

end ImageryJobs.Json
