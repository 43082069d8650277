import ImageryJobs.Graph.Argument

/-!
Why a process graph is refused, and the text of each refusal.
-/

namespace ImageryJobs

/-- A step downwards in a graph. -/
inductive GraphStep where
  /-- From a node to its input. -/
  | imagery
  /-- From several inputs to one of them. -/
  | item (index : Nat)
  deriving DecidableEq

/-- The steps from the root of a graph to a place in it. -/
abbrev GraphPath := List GraphStep

namespace GraphPath

def stepText : GraphStep → String
  | .imagery => ".args.imagery"
  | .item index => "[" ++ toString index ++ "]"

/-- A path as messages show it. -/
def text (path : GraphPath) : String :=
  path.foldl (fun s step => s ++ stepText step) "process_graph"

end GraphPath

/-- Why a process graph is refused. -/
inductive GraphError where
  | missingProcessGraph
  | invalidNode (path : String)
  | missingProcessId (path : String)
  | invalidArguments (path : String)
  | unknownProcess (path processId : String) (suggestion : Option String)
  | unknownProduct (path productId : String) (suggestion : Option String)
  | unmappedProduct (productId : String)
  | missingArgument (path processId argument : String)
  | invalidArgumentType (path processId argument : String) (expected : ArgumentType)
      (actual : String)
  | patternMismatch (path processId argument pattern : String)
  | missingImagery (path processId : String)
  | operationInsideFilter (path processId : String)
  deriving DecidableEq

namespace GraphError

/-- The end of a message that has a suggestion. -/
def didYouMean : Option String → String
  | some id => s!". Did you mean '{id}'?"
  | none => ""

def message : GraphError → String
  | .missingProcessGraph => "[G001] Request has no 'process_graph' object"
  | .invalidNode path => s!"[G002] Node at '{path}' is not a JSON object"
  | .missingProcessId path =>
      s!"[G003] Node at '{path}' has neither 'process_id' nor 'product_id'"
  | .invalidArguments path => s!"[G004] Node at '{path}' has non-object 'args'"
  | .unknownProcess path processId suggestion =>
      s!"[G010] Unknown process '{processId}' at '{path}'{didYouMean suggestion}"
  | .unknownProduct path productId suggestion =>
      s!"[G011] Unknown product '{productId}' at '{path}'{didYouMean suggestion}"
  | .unmappedProduct productId => s!"[G012] Product '{productId}' has no extraction process"
  | .missingArgument path processId argument =>
      s!"[G020] Process '{processId}' at '{path}' is missing required argument '{argument}'"
  | .invalidArgumentType path processId argument expected actual =>
      s!"[G021] Argument '{argument}' of process '{processId}' at '{path}' must be " ++
        s!"{expected.name}, got {actual}"
  | .patternMismatch path processId argument pattern =>
      s!"[G022] Argument '{argument}' of process '{processId}' at '{path}' does not match " ++
        s!"'{pattern}'"
  | .missingImagery path processId =>
      s!"[G030] Process '{processId}' at '{path}' has no 'imagery' input"
  | .operationInsideFilter path processId =>
      s!"[G031] Operation '{processId}' at '{path}' cannot be the input of a filter chain"

end GraphError

/-- The name of the cause. -/
def GraphError.kind : GraphError → String
  | .missingProcessGraph => "MissingProcessGraph"
  | .invalidNode .. => "InvalidNode"
  | .missingProcessId .. => "MissingProcessId"
  | .invalidArguments .. => "InvalidArguments"
  | .unknownProcess .. => "UnknownProcess"
  | .unknownProduct .. => "UnknownProduct"
  | .unmappedProduct .. => "UnmappedProduct"
  | .missingArgument .. => "MissingArgument"
  | .invalidArgumentType .. => "InvalidArgumentType"
  | .patternMismatch .. => "PatternMismatch"
  | .missingImagery .. => "MissingImagery"
  | .operationInsideFilter .. => "OperationInsideFilter"

end ImageryJobs
