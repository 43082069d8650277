import ImageryJobs.Json.Schema

/-!
Types of process arguments.
-/

namespace ImageryJobs

/-- The declared type of a process argument. -/
inductive ArgumentType where
  | dict
  | array
  | number
  | string
  /-- The input of a node: a node, or several in an array. -/
  | imagery
  deriving DecidableEq

namespace ArgumentType

def name : ArgumentType → String
  | .dict => "dict"
  | .array => "array"
  | .number => "number"
  | .string => "string"
  | .imagery => "imagery"

def all : List ArgumentType := [.dict, .array, .number, .string, .imagery]

def ofName? (name : String) : Option ArgumentType := all.find? (·.name = name)

def schema : Json.Schema ArgumentType := .choice ofName?

/-- Whether a value has the type. -/
def accepts : ArgumentType → Json → Bool
  | .dict, .object _ => true
  | .array, .array _ => true
  | .number, .number _ => true
  | .string, .string _ => true
  | .imagery, .object _ => true
  | .imagery, .array items => !items.isEmpty && items.all Json.isObject
  | _, _ => false

end ArgumentType
end ImageryJobs
