import ImageryJobs.Graph.Argument
import ImageryJobs.Pattern.Read

/-!
Declarations of processes: what a node of a process graph may name, and which arguments it takes.
-/

namespace ImageryJobs

/-- How a process takes part in a graph. -/
inductive ProcessKind where
  /-- Restricts a data source; a chain of filters is one extraction. -/
  | filter
  /-- Computes from one or more inputs. -/
  | operation
  deriving DecidableEq

namespace ProcessKind

def name : ProcessKind → String
  | .filter => "filter"
  | .operation => "operation"

def ofName? (name : String) : Option ProcessKind := [filter, operation].find? (·.name = name)

def schema : Json.Schema ProcessKind := .choice ofName?

end ProcessKind

/-- The declaration of an argument. -/
structure Parameter where
  type : ArgumentType
  required : Bool
  /-- The text of the pattern that a string argument must match. -/
  pattern : Option String
  description : Option String
  deriving DecidableEq

namespace Parameter

def ofType (type : ArgumentType) (required : Bool) (pattern : Option String := none) : Parameter :=
  ⟨type, required, pattern, none⟩

def schema : Json.Schema Parameter :=
  .record ["type", "required", "pattern", "description"] fun f => do
    return {
      type := ← f.required "type" ArgumentType.schema
      required := ← f.withDefault "required" false .bool
      pattern := ← f.withDefault "pattern" none (.option .string)
      description := ← f.withDefault "description" none (.option .string) }

def toJson (p : Parameter) : Json :=
  .mk <| [("type", .string p.type.name), ("required", .bool p.required)] ++
    Json.memberIf "pattern" p.pattern .string ++
    Json.memberIf "description" p.description .string

end Parameter

/-- The declaration of a process. -/
structure ProcessSpec where
  processId : String
  kind : ProcessKind
  description : String
  parameters : Dict String Parameter
  deriving DecidableEq

namespace ProcessSpec

def schema : Json.Schema ProcessSpec :=
  .record ["process_id", "type", "description", "parameters"] fun f => do
    return {
      processId := ← f.required "process_id" .string
      kind := ← f.required "type" ProcessKind.schema
      description := ← f.withDefault "description" "" .string
      parameters := ← f.withDefault "parameters" ∅ (.dict Parameter.schema) }

def toJson (p : ProcessSpec) : Json :=
  .mk [("process_id", .string p.processId), ("type", .string p.kind.name),
    ("description", .string p.description),
    ("parameters", .ofDict p.parameters Parameter.toJson)]

end ProcessSpec

/-- A declared process with its patterns read. -/
structure Process where
  spec : ProcessSpec
  patterns : Dict String Pattern

namespace Process

/-- The text and the pattern of a string argument, if it has one. -/
def pattern? (p : Process) (argument : String) : Option Pattern := p.patterns.get? argument

/-- Reads the patterns of a declaration; the first argument by name whose pattern is none. -/
def ofSpec (spec : ProcessSpec) : Except String Process := do
  let patterns ← spec.parameters.entries.filterMapM fun (name, parameter) =>
    match parameter.pattern with
    | none => .ok none
    | some text =>
        match Pattern.read? text with
        | some pattern => .ok (some (name, pattern))
        | none => .error name
  return ⟨spec, Dict.ofList patterns⟩

end Process
end ImageryJobs
