import ImageryJobs.Graph.Registry
import ImageryJobs.Graph.Suggestion
import ImageryJobs.Graph.Validation

/-!
Process graphs as trees of nodes, and reading one from JSON. A chain of filters down to a product
is one extraction node; its arguments are those of all filters of the chain, where the filter
nearest the root decides. Everything is checked while reading, in pre-order.
-/

namespace ImageryJobs

/-- A node of a process graph. -/
inductive Node where
  /-- Extracts a product, restricted by a chain of filters. -/
  | extraction (productId processId : String) (args : Members)
  /-- Computes from inputs, in argument order. -/
  | operation (processId : String) (args : Members) (inputs : List Node)

namespace Node

/-- The process that carries the node out. -/
def processId : Node → String
  | .extraction _ processId _ => processId
  | .operation processId _ _ => processId

def args : Node → Members
  | .extraction _ _ args => args
  | .operation _ args _ => args

def inputs : Node → List Node
  | .extraction _ _ _ => []
  | .operation _ _ inputs => inputs

mutual

/-- The number of nodes of the tree. -/
def count : Node → Nat
  | .extraction _ _ _ => 1
  | .operation _ _ inputs => countAll inputs + 1

def countAll : List Node → Nat
  | [] => 0
  | n :: ns => count n + countAll ns

end

/-- The argument that holds the inputs of a node. -/
def imageryKey : String := "imagery"

/-- The member that names a product. -/
def productKey : String := "product_id"

/-- The member that names a process. -/
def processKey : String := "process_id"

/-- The member that holds the arguments. -/
def argsKey : String := "args"

/-- The arguments of a node object; none where they are absent. -/
def argsOf (node : Json) : Members :=
  match node.get? argsKey with
  | some (.object members) => Dict.ofList members
  | _ => ∅

/-- The id of a product, which must be a string. -/
def productIdOf (product : Json) (path : GraphPath) (owner : String) :
    Except GraphError String :=
  match product with
  | .string productId => .ok productId
  | product =>
      .error (.invalidArgumentType path.text owner productKey .string product.typeName)

/-- The node that extracts a registered product. -/
def extractionOf (r : Registries) (productId : String) (args : Members) (path : GraphPath) :
    Except GraphError Node :=
  if r.products.contains productId then
    match r.mapping.extraction.get? productId with
    | some processId => .ok (.extraction productId processId args)
    | none => .error (.unmappedProduct productId)
  else .error (.unknownProduct path.text productId (Suggestion.nearest productId r.products.keys))

/-- The registered process of a node object, whose arguments are checked. -/
def processOf (r : Registries) (node : Json) (path : GraphPath) : Except GraphError Process := do
  let some processId := (node.get? processKey).bind Json.string?
    | .error (.missingProcessId path.text)
  let some process := r.processes.get? processId
    | .error (.unknownProcess path.text processId
        (Suggestion.nearest processId r.processes.keys))
  match node.get? argsKey with
  | none | some (.object _) =>
      process.validate path.text (argsOf node)
      return process
  | some _ => .error (.invalidArguments path.text)

section Termination

theorem sizeOf_insertEntry_le (k : String) (v : Json) (l : List (String × Json)) :
    sizeOf (Dict.insertEntry k v l) ≤ sizeOf ((k, v) :: l) := by
  induction l with
  | nil => simp [Dict.insertEntry]
  | cons e rest ih =>
      obtain ⟨k', v'⟩ := e
      rw [Dict.insertEntry]
      split
      · exact Nat.le_refl _
      · split
        · simp only [List.cons.sizeOf_spec] at ih ⊢
          omega
        · simp only [List.cons.sizeOf_spec, Prod.mk.sizeOf_spec]
          have : sizeOf k' ≤ 1 + sizeOf k' := Nat.le_add_left _ _
          omega

theorem sizeOf_foldl_insert_le (l : List (String × Json)) (d : Dict String Json) :
    sizeOf (l.foldl (fun d e => d.insert e.1 e.2) d).entries + 1 ≤
      sizeOf l + sizeOf d.entries := by
  induction l generalizing d with
  | nil => simp [Nat.add_comm]
  | cons e rest ih =>
      obtain ⟨k, v⟩ := e
      have h₁ := ih (d.insert k v)
      have h₂ := sizeOf_insertEntry_le k v d.entries
      have h₃ : (d.insert k v).entries = Dict.insertEntry k v d.entries := rfl
      rw [h₃] at h₁
      simp only [List.foldl_cons, List.cons.sizeOf_spec] at *
      omega

theorem sizeOf_ofList_le (l : List (String × Json)) :
    sizeOf (Dict.ofList l : Dict String Json).entries ≤ sizeOf l := by
  have h := sizeOf_foldl_insert_le l Dict.empty
  have h₀ : sizeOf (Dict.empty : Dict String Json).entries = 1 := rfl
  rw [Dict.ofList]
  omega

theorem sizeOf_lookup_lt {k : String} {v : Json} {l : List (String × Json)}
    (h : Dict.lookup k l = some v) : sizeOf v < sizeOf l := by
  induction l with
  | nil => simp [Dict.lookup] at h
  | cons e rest ih =>
      obtain ⟨k', v'⟩ := e
      rw [Dict.lookup] at h
      simp only [List.cons.sizeOf_spec, Prod.mk.sizeOf_spec]
      split at h
      · cases h; omega
      · have := ih h; omega

/-- A member is smaller than its object. -/
theorem sizeOf_get?_lt {j v : Json} {k : String} (h : j.get? k = some v) : sizeOf v < sizeOf j := by
  cases j with
  | object members =>
      have h₁ := sizeOf_lookup_lt (l := (Dict.ofList members : Dict String Json).entries) h
      have h₂ := sizeOf_ofList_le members
      simp only [Json.object.sizeOf_spec]
      omega
  | _ => simp [Json.get?, Json.members?] at h

/-- An argument is smaller than its node. -/
theorem sizeOf_argsOf_lt {j v : Json} {k : String} (h : (argsOf j).get? k = some v) :
    sizeOf v < sizeOf j := by
  rw [argsOf] at h
  split at h
  · rename_i members hm
    have h₁ := sizeOf_get?_lt hm
    have h₂ : (Json.object members).get? k = some v := h
    have h₃ := sizeOf_get?_lt h₂
    omega
  · simp [Dict.get?, EmptyCollection.emptyCollection, Dict.empty, Dict.lookup] at h

end Termination

/-- The end of a chain of filters that begins at a node with the given process. `merged` are the
arguments of the filters above. -/
def readChain (r : Registries) (node : Json) (process : Process) (merged : Members)
    (path : GraphPath) : Except GraphError Node :=
  let merged := merged.union ((argsOf node).erase imageryKey)
  match (argsOf node).get? productKey with
  | some product => do
      let productId ← productIdOf product path process.spec.processId
      extractionOf r productId merged path
  | none =>
      match _h : (argsOf node).get? imageryKey with
      | none => .error (.missingImagery path.text process.spec.processId)
      | some next =>
          let path := path ++ [.imagery]
          if next.isObject then
            match next.get? productKey with
            | some product => do
                let productId ← productIdOf product path "product"
                extractionOf r productId (merged.insertNew productKey (.string productId)) path
            | none => do
                let process ← processOf r next path
                if process.spec.kind = .filter then readChain r next process merged path
                else .error (.operationInsideFilter path.text process.spec.processId)
          else .error (.invalidNode path.text)
termination_by sizeOf node
decreasing_by exact sizeOf_argsOf_lt _h

mutual

/-- Reads the node at a place of a graph. -/
def readAt (r : Registries) (node : Json) (path : GraphPath) : Except GraphError Node :=
  if node.isObject then
    match node.get? productKey with
    | some product => do
        let productId ← productIdOf product path "product"
        extractionOf r productId (Dict.ofList [(productKey, .string productId)]) path
    | none => do
        let process ← processOf r node path
        match process.spec.kind with
        | .filter => readChain r node process ∅ path
        | .operation => do
            let inputs ← match h : (argsOf node).get? imageryKey with
              | some (.array items) => readItems r items 0 (path ++ [.imagery])
              | some input => do
                  let input ← readAt r input (path ++ [.imagery])
                  pure [input]
              | none => pure []
            if inputs.isEmpty then .error (.missingImagery path.text process.spec.processId)
            else return .operation process.spec.processId ((argsOf node).erase imageryKey) inputs
  else .error (.invalidNode path.text)
termination_by sizeOf node
decreasing_by
  · have := sizeOf_argsOf_lt h
    simp only [Json.array.sizeOf_spec] at this
    omega
  · exact sizeOf_argsOf_lt h

/-- Reads the inputs from the one with the given index on. -/
def readItems (r : Registries) (items : List Json) (index : Nat) (path : GraphPath) :
    Except GraphError (List Node) :=
  match items with
  | [] => .ok []
  | item :: rest => do
      let node ← readAt r item (path ++ [.item index])
      let nodes ← readItems r rest (index + 1) path
      return node :: nodes
termination_by sizeOf items

end

/-- Reads a process graph. -/
def read (r : Registries) (graph : Json) : Except GraphError Node := readAt r graph []

/-- The process graph of a submission. -/
def graphOf (request : Json) : Except GraphError Json :=
  match request.get? "process_graph" with
  | some (.object members) => .ok (.object members)
  | _ => .error .missingProcessGraph

end Node
end ImageryJobs
