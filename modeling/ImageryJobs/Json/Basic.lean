import ImageryJobs.Dict
import ImageryJobs.Json.Number

/-!
JSON values. Members of an object are meant in ascending key order, each key once; `members?`
gives them as a `Dict`, which holds of any list of members with the last of equal keys standing.
-/

namespace ImageryJobs

/-- A JSON value. -/
inductive Json where
  | null
  | bool (value : Bool)
  | number (value : Json.Number)
  | string (text : String)
  | array (items : List Json)
  | object (members : List (String × Json))

/-- The members of an object. -/
abbrev Members := Dict String Json

namespace Json

mutual

/-- Equality of values, member by member. -/
def decEq : (x y : Json) → Decidable (x = y)
  | .null, .null => isTrue rfl
  | .bool a, .bool b =>
      if h : a = b then isTrue (h ▸ rfl) else isFalse (by rintro ⟨⟩; exact h rfl)
  | .number a, .number b =>
      if h : a = b then isTrue (h ▸ rfl) else isFalse (by rintro ⟨⟩; exact h rfl)
  | .string a, .string b =>
      if h : a = b then isTrue (h ▸ rfl) else isFalse (by rintro ⟨⟩; exact h rfl)
  | .array a, .array b =>
      match decEqList a b with
      | isTrue h => isTrue (h ▸ rfl)
      | isFalse h => isFalse (by rintro ⟨⟩; exact h rfl)
  | .object a, .object b =>
      match decEqMembers a b with
      | isTrue h => isTrue (h ▸ rfl)
      | isFalse h => isFalse (by rintro ⟨⟩; exact h rfl)
  | .null, .bool _ | .null, .number _ | .null, .string _ | .null, .array _ | .null, .object _
  | .bool _, .null | .bool _, .number _ | .bool _, .string _ | .bool _, .array _
  | .bool _, .object _
  | .number _, .null | .number _, .bool _ | .number _, .string _ | .number _, .array _
  | .number _, .object _
  | .string _, .null | .string _, .bool _ | .string _, .number _ | .string _, .array _
  | .string _, .object _
  | .array _, .null | .array _, .bool _ | .array _, .number _ | .array _, .string _
  | .array _, .object _
  | .object _, .null | .object _, .bool _ | .object _, .number _ | .object _, .string _
  | .object _, .array _ => isFalse nofun

def decEqList : (xs ys : List Json) → Decidable (xs = ys)
  | [], [] => isTrue rfl
  | [], _ :: _ | _ :: _, [] => isFalse nofun
  | x :: xs, y :: ys =>
      match decEq x y, decEqList xs ys with
      | isTrue h, isTrue h' => isTrue (h ▸ h' ▸ rfl)
      | isFalse h, _ => isFalse (by rintro ⟨⟩; exact h rfl)
      | _, isFalse h => isFalse (by rintro ⟨⟩; exact h rfl)

def decEqMembers : (xs ys : List (String × Json)) → Decidable (xs = ys)
  | [], [] => isTrue rfl
  | [], _ :: _ | _ :: _, [] => isFalse nofun
  | (k, x) :: xs, (l, y) :: ys =>
      match String.decEq k l, decEq x y, decEqMembers xs ys with
      | isTrue h, isTrue h', isTrue h'' => isTrue (h ▸ h' ▸ h'' ▸ rfl)
      | isFalse h, _, _ => isFalse (by rintro ⟨⟩; exact h rfl)
      | _, isFalse h, _ => isFalse (by rintro ⟨⟩; exact h rfl)
      | _, _, isFalse h => isFalse (by rintro ⟨⟩; exact h rfl)

end

instance : DecidableEq Json := decEq
instance : Inhabited Json := ⟨.null⟩

/-- The object with the entries of a map as members. -/
def ofMembers (d : Members) : Json := .object d.entries

/-- An object with the given members. -/
def mk (members : List (String × Json)) : Json := ofMembers (Dict.ofList members)

def ofNat (n : Nat) : Json := .number (.integer n)

/-- A list as an array. -/
def ofList (xs : List α) (f : α → Json) : Json := .array (xs.map f)

/-- An absent value as null. -/
def ofOption (x : Option α) (f : α → Json) : Json := (x.map f).getD .null

/-- The members of an object. -/
def members? : Json → Option Members
  | .object members => some (Dict.ofList members)
  | _ => none

/-- The value of a member; `none` also for values that are no objects. -/
def get? (j : Json) (key : String) : Option Json := j.members?.bind (·.get? key)

/-- Follows member names downwards. -/
def path? (j : Json) (keys : List String) : Option Json :=
  keys.foldl (fun j key => j.bind (·.get? key)) (some j)

def string? : Json → Option String
  | .string text => some text
  | _ => none

def items? : Json → Option (List Json)
  | .array items => some items
  | _ => none

def bool? : Json → Option Bool
  | .bool value => some value
  | _ => none

def number? : Json → Option Number
  | .number value => some value
  | _ => none

/-- The value of a number literal that is a natural number below `2 ^ 64`. -/
def nat? : Json → Option Nat
  | .number (.integer value) => if 0 ≤ value then some value.toNat else none
  | _ => none

def isNull (j : Json) : Bool := j = .null

def isObject : Json → Bool
  | .object _ => true
  | _ => false

/-- The name of a value's type in messages. -/
def typeName : Json → String
  | .null => "null"
  | .bool _ => "boolean"
  | .number _ => "number"
  | .string _ => "string"
  | .array _ => "array"
  | .object _ => "dict"

end Json
end ImageryJobs
