import ImageryJobs.Json.Basic
import ImageryJobs.Json.Token

/-!
JSON texts as trees. A tree keeps the members of an object in written order with repetitions,
so that the reader of each type decides on repeated names, and it keeps leaves without a value.
`Raw.read?` reads a text; `Raw.toJson?` gives the value of a tree nested no deeper than allowed.
-/

namespace ImageryJobs.Json

/-- The tree of a JSON text. -/
inductive Raw where
  | null
  | bool (value : Bool)
  | number (value : Option Number)
  | string (text : Option String)
  | array (items : List Raw)
  | object (members : List (Option String × Raw))

namespace Raw

/-- An array or object that is not closed yet; what it holds stands last first. -/
inductive Frame where
  | array (items : List Raw)
  | object (members : List (Option String × Raw))
  /-- An object that waits for the value of a member. -/
  | member (members : List (Option String × Raw)) (key : Option String)

/-- What may follow. -/
inductive State where
  | value (stack : List Frame)
  | firstItem (stack : List Frame)
  | firstKey (stack : List Frame)
  | key (stack : List Frame)
  | colon (key : Option String) (stack : List Frame)
  | after (stack : List Frame)
  | complete (tree : Raw)

/-- Adds a complete tree to the innermost frame. -/
def deliver (tree : Raw) : List Frame → Option State
  | [] => some (.complete tree)
  | .array items :: stack => some (.after (.array (tree :: items) :: stack))
  | .member members key :: stack => some (.after (.object ((key, tree) :: members) :: stack))
  | .object _ :: _ => none

/-- Begins a value. -/
def begin (stack : List Frame) : Token → Option State
  | .null => deliver .null stack
  | .bool value => deliver (.bool value) stack
  | .number value => deliver (.number value) stack
  | .string text => deliver (.string text) stack
  | .openBracket => some (.firstItem (.array [] :: stack))
  | .openBrace => some (.firstKey (.object [] :: stack))
  | _ => none

/-- Closes the innermost frame. -/
def close (token : Token) : List Frame → Option State
  | .array items :: stack =>
      if token = .closeBracket then deliver (.array items.reverse) stack else none
  | .object members :: stack =>
      if token = .closeBrace then deliver (.object members.reverse) stack else none
  | _ => none

/-- Takes one token. -/
def step (state : State) (token : Token) : Option State :=
  match state with
  | .value stack => begin stack token
  | .firstItem stack =>
      if token = .closeBracket then close token stack else begin stack token
  | .firstKey stack =>
      match token with
      | .string key => some (.colon key stack)
      | token => close token stack
  | .key stack =>
      match token with
      | .string key => some (.colon key stack)
      | _ => none
  | .colon key stack =>
      match token, stack with
      | .colon, .object members :: stack => some (.value (.member members key :: stack))
      | _, _ => none
  | .after stack =>
      match token, stack with
      | .comma, .array _ :: _ => some (.value stack)
      | .comma, .object _ :: _ => some (.key stack)
      | token, stack => close token stack
  | .complete _ => none

/-- The tree of a sequence of tokens. -/
def ofTokens? (tokens : List Token) : Option Raw := do
  match ← tokens.foldlM step (.value []) with
  | .complete tree => some tree
  | _ => none

/-- The tree of a text. -/
def read? (text : String) : Option Raw := do ofTokens? (← Token.scan? text.toList)

mutual

/-- The value of a tree whose arrays and objects are nested at most `depth` deep. Of members
with one name the last stands. -/
def toJson? (depth : Nat) : Raw → Option Json
  | .null => some .null
  | .bool value => some (.bool value)
  | .number value => value.map .number
  | .string text => text.map .string
  | .array items =>
      match depth with
      | 0 => none
      | depth + 1 => (itemsToJson? depth items).map .array
  | .object members =>
      match depth with
      | 0 => none
      | depth + 1 => (membersToJson? depth members).map .mk

def itemsToJson? (depth : Nat) : List Raw → Option (List Json)
  | [] => some []
  | x :: xs => do
      let x ← toJson? depth x
      let xs ← itemsToJson? depth xs
      return x :: xs

def membersToJson? (depth : Nat) : List (Option String × Raw) → Option (List (String × Json))
  | [] => some []
  | (key, x) :: xs => do
      let key ← key
      let x ← toJson? depth x
      let xs ← membersToJson? depth xs
      return (key, x) :: xs

end

/-- How deep arrays and objects of a text may be nested. -/
def depthLimit : Nat := 127

end Raw

/-- Reads a value from its text. -/
def read? (text : String) : Option Json := (Raw.read? text).bind (Raw.toJson? Raw.depthLimit)

end ImageryJobs.Json
