import ImageryJobs.Graph.Node

/-!
Task lists: a process graph in the order of execution. Every node is one task, after the tasks of
its inputs, and a last task converts the result. Tasks are numbered by their place.
-/

namespace ImageryJobs

/-- One unit of execution. -/
structure TaskSpec where
  /-- The place in the order of execution, from 0. -/
  seqNum : Nat
  processId : String
  /-- What the process is given. -/
  args : Members
  /-- The tasks whose output this task reads. -/
  dependsOn : List Nat
  deriving DecidableEq

namespace TaskSpec

/-- Sequence numbers are below `2 ^ 32`. -/
def seqLimit : Nat := 4294967296

def schema : Json.Schema TaskSpec :=
  .record ["seq_num", "process_id", "args", "depends_on"] fun f => do
    return {
      seqNum := ← f.required "seq_num" (.natBelow seqLimit)
      processId := ← f.required "process_id" .string
      args := ← f.required "args" (.dict .any)
      dependsOn := ← f.withDefault "depends_on" [] (.list (.natBelow seqLimit)) }

def toJson (t : TaskSpec) : Json :=
  .mk [("seq_num", .ofNat t.seqNum), ("process_id", .string t.processId),
    ("args", .ofMembers t.args), ("depends_on", .ofList t.dependsOn .ofNat)]

end TaskSpec

namespace Node

mutual

/-- The tasks of a tree, numbered from `start`. The task of the root is the last. -/
def tasks (start : Nat) : Node → List TaskSpec
  | .extraction _ processId args => [⟨start, processId, args, []⟩]
  | .operation processId args inputs =>
      tasksAll start inputs ++
        [⟨start + countAll inputs, processId, args, rootsOf start inputs⟩]

/-- The tasks of several trees, one after the other. -/
def tasksAll (start : Nat) : List Node → List TaskSpec
  | [] => []
  | n :: ns => tasks start n ++ tasksAll (start + count n) ns

/-- The numbers of the roots of several trees. -/
def rootsOf (start : Nat) : List Node → List Nat
  | [] => []
  | n :: ns => (start + count n - 1) :: rootsOf (start + count n) ns

end

/-- The process of the task that finishes every job. -/
def convertId : String := "convert"

/-- The task that finishes a job. An output specification that is null counts as none. -/
def convertTask (root : Node) (jobId : String) (output : Option Json) : TaskSpec where
  seqNum := root.count
  processId := convertId
  args := Dict.ofList <| ("job_id", .string jobId) ::
    Json.memberIf "output" (output.filter fun o => !o.isNull) id
  dependsOn := [root.count - 1]

/-- The tasks of a job. -/
def taskList (root : Node) (jobId : String) (output : Option Json) : List TaskSpec :=
  root.tasks 0 ++ [root.convertTask jobId output]

/-- Reads a process graph and orders it into tasks. -/
def compile (r : Registries) (graph : Json) (jobId : String) (output : Option Json) :
    Except GraphError (List TaskSpec) :=
  (read r graph).map (·.taskList jobId output)

end Node
end ImageryJobs
