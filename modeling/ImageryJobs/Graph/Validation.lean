import ImageryJobs.Graph.Error
import ImageryJobs.Graph.Process

/-!
Checking the arguments of a node against the declaration of its process. Parameters are checked
in the order of their names, each for presence, then type, then pattern, and the first violation
is reported. Undeclared arguments are not looked at.
-/

namespace ImageryJobs.Process

/-- Checks one declared argument of the node at a place of the graph. -/
def checkArgument (p : Process) (path : String) (args : Members) (name : String)
    (parameter : Parameter) : Except GraphError Unit :=
  match args.get? name with
  | none =>
      if parameter.required then .error (.missingArgument path p.spec.processId name) else .ok ()
  | some value =>
      if !parameter.type.accepts value then
        .error (.invalidArgumentType path p.spec.processId name parameter.type value.typeName)
      else match p.pattern? name, value with
        | some pattern, .string text =>
            if pattern.occursIn text then .ok ()
            else .error (.patternMismatch path p.spec.processId name (parameter.pattern.getD ""))
        | _, _ => .ok ()

/-- Checks all declared arguments of the node at a place of the graph. -/
def validate (p : Process) (path : String) (args : Members) : Except GraphError Unit :=
  p.spec.parameters.entries.forM fun (name, parameter) => p.checkArgument path args name parameter

end ImageryJobs.Process
