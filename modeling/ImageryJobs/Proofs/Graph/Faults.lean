import ImageryJobs.Proofs.Graph.Declarations
import ImageryJobs.Proofs.Graph.Language
import ImageryJobs.Proofs.Graph.Paths

/-!
Faults of process graphs. Which values of a graph are nodes is settled by the kinds of their processes.
What is wrong with a node is said of that node alone, and of whether a filter stands right above it; the
fault of a graph is the first node, in pre-order, with which something is wrong. A graph of the language
has no fault.
-/

namespace ImageryJobs

/-! ### Arguments -/

/-- What is wrong with the arguments of a process, by its declaration. -/
inductive ProcessSpec.Broken (spec : ProcessSpec) (path : String) (args : Members) :
    GraphError → Prop where
  | missing {name : String} {parameter : Parameter}
      (declared : spec.parameters.get? name = some parameter) (required : parameter.required = true)
      (absent : args.get? name = none) :
      Broken spec path args (.missingArgument path spec.processId name)
  | mistyped {name : String} {parameter : Parameter} {value : Json}
      (declared : spec.parameters.get? name = some parameter) (given : args.get? name = some value)
      (other : parameter.type.accepts value = false) :
      Broken spec path args
        (.invalidArgumentType path spec.processId name parameter.type value.typeName)
  | mismatched {name text value : String} {parameter : Parameter} {pattern : Pattern}
      (declared : spec.parameters.get? name = some parameter)
      (written : parameter.pattern = some text) (read : Pattern.read? text = some pattern)
      (given : args.get? name = some (.string value)) (other : pattern.occursIn value = false) :
      Broken spec path args (.patternMismatch path spec.processId name text)

theorem Process.Accepts.not_broken {p : Process} {path : String} {args : Members} {e : GraphError}
    (declared : Process.ofSpec p.spec = .ok p) (h : p.Accepts args) :
    ¬ p.spec.Broken path args e := by
  intro broken
  cases broken with
  | missing hget required absent =>
      have optional := (h _ _ (Dict.get?_eq_some_iff.1 hget)).1 absent
      cases required.symm.trans optional
  | mistyped hget given other =>
      have typed := ((h _ _ (Dict.get?_eq_some_iff.1 hget)).2 _ given).1
      cases other.symm.trans typed
  | @mismatched name text value parameter pattern hget written read given other =>
      have hpattern : p.pattern? name = some pattern := by
        rw [pattern?_of_ofSpec declared, hget, Option.bind_some, Parameter.read?, written]
        exact read
      have matched := ((h _ _ (Dict.get?_eq_some_iff.1 hget)).2 _ given).2 _ _ hpattern rfl
      cases other.symm.trans matched

/-- The path that an error shows. -/
def GraphError.path? : GraphError → Option String
  | .missingProcessGraph | .unmappedProduct _ => none
  | .invalidNode path | .missingProcessId path | .invalidArguments path | .unknownProcess path _ _
  | .unknownProduct path _ _ | .missingArgument path _ _ | .invalidArgumentType path _ _ _ _
  | .patternMismatch path _ _ _ | .missingImagery path _ | .operationInsideFilter path _ => some path

namespace Node

/-! ### Nodes of a graph -/

/-- A value without a product names a registered process. -/
structure Runs (r : Registries) (node : Json) (p : Process) : Prop where
  bare : node.get? productKey = none
  named : node.get? processKey = some (.string p.spec.processId)
  registered : r.processes.get? p.spec.processId = some p

/-- A value is an input of a node: of a filter without a product, or one of those of an operation. -/
inductive Child (r : Registries) (node : Json) : GraphPath → Json → Bool → Prop where
  | chained {p : Process} {next : Json} (runs : Runs r node p) (kind : p.spec.kind = .filter)
      (absent : (argsOf node).get? productKey = none)
      (imagery : (argsOf node).get? imageryKey = some next) : Child r node [.imagery] next true
  | only {p : Process} {next : Json} (runs : Runs r node p) (kind : p.spec.kind = .operation)
      (imagery : (argsOf node).get? imageryKey = some next)
      (single : ∀ items, next ≠ .array items) : Child r node [.imagery] next false
  | item {p : Process} {items : List Json} {index : Nat} {next : Json} (runs : Runs r node p)
      (kind : p.spec.kind = .operation)
      (imagery : (argsOf node).get? imageryKey = some (.array items))
      (at_index : items[index]? = some next) : Child r node [.imagery, .item index] next false

/-- A path leads from one node to another. The flag says whether a filter is right above. -/
inductive Reaches (r : Registries) : Json → Bool → GraphPath → Json → Bool → Prop where
  | here {node : Json} {under : Bool} : Reaches r node under [] node under
  | step {node next last : Json} {b b' b'' : Bool} {steps path : GraphPath}
      (child : Child r node steps next b') (rest : Reaches r next b' path last b'') :
      Reaches r node b (steps ++ path) last b''

/-- A node names a product: itself, or in the arguments of a filter. -/
inductive Selects (r : Registries) (node : Json) : String → Prop where
  | leaf {id : String} (product : node.get? productKey = some (.string id)) : Selects r node id
  | filter {id : String} {p : Process} (runs : Runs r node p) (kind : p.spec.kind = .filter)
      (product : (argsOf node).get? productKey = some (.string id)) : Selects r node id

/-- There is nothing that a node could be computed from. -/
inductive Starved (node : Json) : ProcessKind → Prop where
  | filter (absent : (argsOf node).get? productKey = none)
      (missing : (argsOf node).get? imageryKey = none) : Starved node .filter
  | operation (missing : (argsOf node).get? imageryKey = none) : Starved node .operation
  | empty (imagery : (argsOf node).get? imageryKey = some (.array [])) : Starved node .operation

/-- What is wrong with the node at a path. The flag says whether a filter is right above. -/
inductive Violates (r : Registries) (node : Json) (path : GraphPath) : Bool → GraphError → Prop where
  | invalidNode {under : Bool} (other : node.isObject = false) :
      Violates r node path under (.invalidNode path.text)
  | missingProcessId {under : Bool} (object : node.isObject = true)
      (bare : node.get? productKey = none)
      (unnamed : ∀ id, node.get? processKey ≠ some (.string id)) :
      Violates r node path under (.missingProcessId path.text)
  | unknownProcess {under : Bool} {id : String} (bare : node.get? productKey = none)
      (named : node.get? processKey = some (.string id)) (unknown : r.processes.get? id = none) :
      Violates r node path under
        (.unknownProcess path.text id (Suggestion.nearest id r.processes.keys))
  | invalidArguments {under : Bool} {p : Process} {args : Json} (runs : Runs r node p)
      (given : node.get? argsKey = some args) (other : args.isObject = false) :
      Violates r node path under (.invalidArguments path.text)
  | argument {under : Bool} {p : Process} {e : GraphError} (runs : Runs r node p)
      (broken : p.spec.Broken path.text (argsOf node) e) : Violates r node path under e
  | product {under : Bool} {product : Json} (given : node.get? productKey = some product)
      (other : ∀ id, product ≠ .string id) :
      Violates r node path under
        (.invalidArgumentType path.text "product" productKey .string product.typeName)
  | selection {under : Bool} {p : Process} {product : Json} (runs : Runs r node p)
      (kind : p.spec.kind = .filter) (given : (argsOf node).get? productKey = some product)
      (other : ∀ id, product ≠ .string id) :
      Violates r node path under
        (.invalidArgumentType path.text p.spec.processId productKey .string product.typeName)
  | unknownProduct {under : Bool} {id : String} (selects : Selects r node id)
      (unknown : r.products.contains id = false) :
      Violates r node path under
        (.unknownProduct path.text id (Suggestion.nearest id r.products.keys))
  | unmappedProduct {under : Bool} {id : String} (selects : Selects r node id)
      (known : r.products.contains id = true) (unmapped : r.mapping.extraction.get? id = none) :
      Violates r node path under (.unmappedProduct id)
  | missingImagery {under : Bool} {p : Process} (runs : Runs r node p)
      (starved : Starved node p.spec.kind) :
      Violates r node path under (.missingImagery path.text p.spec.processId)
  | operationInsideFilter {p : Process} (runs : Runs r node p) (kind : p.spec.kind = .operation) :
      Violates r node path true (.operationInsideFilter path.text p.spec.processId)

/-- Nothing is wrong with a node. -/
def Clean (r : Registries) (node : Json) (under : Bool) : Prop :=
  ∀ path e, ¬ Violates r node path under e

/-- Nothing is wrong with a node and those below it. -/
def AllClean (r : Registries) (node : Json) (under : Bool) : Prop :=
  ∀ path last b, Reaches r node under path last b → Clean r last b

/-- An error says what is wrong with the first node, among one at a path and those below it, with which
something is wrong: the others come later. -/
def Fault (r : Registries) (node : Json) (under : Bool) (base : GraphPath) (e : GraphError) : Prop :=
  ∃ path last b, Reaches r node under path last b ∧ Violates r last (base ++ path) b e ∧
    ∀ path' last' b', Reaches r node under path' last' b' →
      Clean r last' b' ∨ path' = path ∨ path.Before path'

variable {r : Registries} {node next : Json} {p q : Process} {under b : Bool} {path steps : GraphPath}
  {e : GraphError}

theorem Runs.unique (hp : Runs r node p) (hq : Runs r node q) : p = q := by
  have same := Json.string.inj (Option.some.inj (hp.named.symm.trans hq.named))
  exact Option.some.inj (hp.registered.symm.trans (same ▸ hq.registered))

theorem Child.bare (h : Child r node steps next b) : node.get? productKey = none := by
  cases h with
  | chained runs | only runs | item runs => exact runs.bare

theorem Child.of_filter (h : Child r node steps next b) (runs : Runs r node p)
    (kind : p.spec.kind = .filter) : (argsOf node).get? productKey = none ∧
      (argsOf node).get? imageryKey = some next ∧ steps = [.imagery] ∧ b = true := by
  cases h with
  | chained _ _ absent imagery => exact ⟨absent, imagery, rfl, rfl⟩
  | only runs' kind' | item runs' kind' =>
      obtain rfl := runs.unique runs'
      cases kind.symm.trans kind'

theorem Child.of_single (h : Child r node steps next b) (runs : Runs r node p)
    (kind : p.spec.kind = .operation) {input : Json}
    (imagery : (argsOf node).get? imageryKey = some input) (single : ∀ items, input ≠ .array items) :
    next = input ∧ steps = [.imagery] ∧ b = false := by
  cases h with
  | chained runs' kind' =>
      obtain rfl := runs.unique runs'
      cases kind.symm.trans kind'
  | only _ _ imagery' => exact ⟨Option.some.inj (imagery'.symm.trans imagery), rfl, rfl⟩
  | item _ _ imagery' => exact absurd (Option.some.inj (imagery.symm.trans imagery')) (single _)

theorem Child.of_items (h : Child r node steps next b) (runs : Runs r node p)
    (kind : p.spec.kind = .operation) {items : List Json}
    (imagery : (argsOf node).get? imageryKey = some (.array items)) :
    ∃ i, items[i]? = some next ∧ steps = [.imagery, .item i] ∧ b = false := by
  cases h with
  | chained runs' kind' =>
      obtain rfl := runs.unique runs'
      cases kind.symm.trans kind'
  | only _ _ imagery' single =>
      exact absurd (Option.some.inj (imagery'.symm.trans imagery)) (single _)
  | item _ _ imagery' at_index =>
      obtain rfl := Json.array.inj (Option.some.inj (imagery'.symm.trans imagery))
      exact ⟨_, at_index, rfl, rfl⟩

/-- Two inputs of a node are the same one, or at different indices. -/
theorem Child.same_or_ne {steps' : GraphPath} {next' : Json} {b' : Bool}
    (h : Child r node steps next b) (h' : Child r node steps' next' b') :
    (steps' = steps ∧ next' = next ∧ b' = b) ∨
      ∃ i j, i ≠ j ∧ steps' = [.imagery, .item i] ∧ steps = [.imagery, .item j] := by
  cases h with
  | chained runs kind absent imagery =>
      obtain ⟨-, imagery', rfl, rfl⟩ := h'.of_filter runs kind
      exact .inl ⟨rfl, Option.some.inj (imagery'.symm.trans imagery), rfl⟩
  | only runs kind imagery single =>
      obtain ⟨rfl, rfl, rfl⟩ := h'.of_single runs kind imagery single
      exact .inl ⟨rfl, rfl, rfl⟩
  | @item _ items j _ runs kind imagery at_index =>
      obtain ⟨i, at_index', rfl, rfl⟩ := h'.of_items runs kind imagery
      by_cases same : i = j
      · subst same
        exact .inl ⟨rfl, Option.some.inj (at_index'.symm.trans at_index), rfl⟩
      · exact .inr ⟨i, j, same, rfl, rfl⟩

theorem Violates.text_eq (h : Violates r node path under e) {text : String} (ht : e.path? = some text) :
    text = path.text := by
  cases h with
  | argument runs broken => cases broken <;> cases ht <;> rfl
  | unmappedProduct => cases ht
  | _ => cases ht; rfl

/-! ### Faults here and below -/

theorem AllClean.intro (here : Clean r node under)
    (children : ∀ steps next b, Child r node steps next b → AllClean r next b) :
    AllClean r node under := by
  intro path last b reaches
  cases reaches with
  | here => exact here
  | step child rest => exact children _ _ _ child _ _ _ rest

theorem Fault.here (h : Violates r node path under e) : Fault r node under path e :=
  ⟨[], node, under, .here, by rwa [List.append_nil], fun path' _ _ _ =>
    .inr (GraphPath.eq_nil_or_nil_before path')⟩

/-- A fault below a node is its first if nothing is wrong with the node and with the inputs that come
before. -/
theorem Fault.step (clean : Clean r node under) (child : Child r node steps next b)
    (earlier : ∀ steps' next' b', Child r node steps' next' b' → steps'.Before steps →
      AllClean r next' b') (h : Fault r next b (path ++ steps) e) : Fault r node under path e := by
  obtain ⟨rel, last, b', reaches, violates, first⟩ := h
  refine ⟨steps ++ rel, last, b', .step child reaches, by rwa [← List.append_assoc], ?_⟩
  intro path' last' b'' reaches'
  cases reaches' with
  | here => exact .inl clean
  | step child' rest =>
      obtain ⟨rfl, rfl, rfl⟩ | ⟨i, j, hne, rfl, rfl⟩ := child.same_or_ne child'
      · obtain clean' | rfl | later := first _ _ _ rest
        · exact .inl clean'
        · exact .inr (.inl rfl)
        · exact .inr (.inr (GraphPath.append_before later))
      · obtain lt | lt := Nat.lt_or_gt_of_ne hne
        · exact .inl (earlier _ _ _ child' (.cons (.rel (.item lt))) _ _ _ rest)
        · exact .inr (.inr (.cons (.rel (.item lt))))

/-- An input that is the only one comes before every other. -/
theorem Fault.only (clean : Clean r node under) (child : Child r node [.imagery] next b)
    (h : Fault r next b (path ++ [.imagery]) e) : Fault r node under path e := by
  refine .step clean child (fun steps' next' b' child' before => ?_) h
  obtain ⟨rfl, -⟩ | ⟨i, j, -, -, heq⟩ := child.same_or_ne child'
  · exact absurd before GraphPath.not_before_self
  · cases heq

/-! ### Nodes in order -/

section Declared

variable (declared : Registries.Declared r.processes)

include declared

theorem runs_of_registered {id : String} (bare : node.get? productKey = none)
    (named : node.get? processKey = some (.string id)) (registered : r.processes.get? id = some p) :
    Runs r node p := by
  obtain ⟨rfl, -⟩ := declared id p registered
  exact ⟨bare, named, registered⟩

theorem Names.runs (h : Names r node p) (bare : node.get? productKey = none) : Runs r node p := by
  obtain ⟨id, named, registered⟩ := h.process
  exact runs_of_registered declared bare named registered

/-- What can still be wrong with a node whose process accepts its arguments. -/
theorem Violates.of_names (named : Names r node p) (bare : node.get? productKey = none)
    (h : Violates r node path under e) :
    (p.spec.kind = .filter ∧ ∃ product, (argsOf node).get? productKey = some product ∧
        ¬ ∃ id, product = .string id ∧ r.Extracts id) ∨
      Starved node p.spec.kind ∨ under = true ∧ p.spec.kind = .operation := by
  have runs := named.runs declared bare
  cases h with
  | invalidNode other => cases named.isObject.symm.trans other
  | missingProcessId _ _ unnamed => exact absurd runs.named (unnamed _)
  | unknownProcess _ other unknown =>
      cases runs.named.symm.trans other
      cases unknown.symm.trans runs.registered
  | invalidArguments _ given other => cases (named.args _ given).symm.trans other
  | argument runs' broken =>
      obtain rfl := runs'.unique runs
      exact absurd broken (named.accepted.not_broken (declared _ _ runs.registered).2)
  | product given => cases bare.symm.trans given
  | selection runs' kind given other =>
      obtain rfl := runs'.unique runs
      exact .inl ⟨kind, _, given, fun ⟨id, text, _⟩ => other id text⟩
  | unknownProduct selects unknown =>
      cases selects with
      | leaf product => cases bare.symm.trans product
      | filter runs' kind product =>
          obtain rfl := runs'.unique runs
          refine .inl ⟨kind, _, product, fun ⟨id, text, known, _⟩ => ?_⟩
          cases text
          cases unknown.symm.trans known
  | unmappedProduct selects _ unmapped =>
      cases selects with
      | leaf product => cases bare.symm.trans product
      | filter runs' kind product =>
          obtain rfl := runs'.unique runs
          refine .inl ⟨kind, _, product, fun ⟨id, text, _, mapped⟩ => ?_⟩
          cases text
          obtain ⟨_, mapped⟩ := mapped
          cases unmapped.symm.trans mapped
  | missingImagery runs' starved =>
      obtain rfl := runs'.unique runs
      exact .inr (.inl starved)
  | operationInsideFilter runs' kind =>
      obtain rfl := runs'.unique runs
      exact .inr (.inr ⟨rfl, kind⟩)

theorem clean_of_filter (named : Names r node p) (bare : node.get? productKey = none)
    (kind : p.spec.kind = .filter)
    (product : ∀ product, (argsOf node).get? productKey = some product →
      ∃ id, product = .string id ∧ r.Extracts id)
    (fed : (argsOf node).get? productKey = none → (argsOf node).get? imageryKey ≠ none) :
    Clean r node under := by
  intro path e h
  obtain ⟨-, value, given, wrong⟩ | starved | ⟨-, kind'⟩ := h.of_names declared named bare
  · exact wrong (product value given)
  · rw [kind] at starved
    cases starved with
    | filter absent missing => exact fed absent missing
  · cases kind.symm.trans kind'

theorem clean_of_operation (named : Names r node p) (bare : node.get? productKey = none)
    (kind : p.spec.kind = .operation) {input : Json}
    (imagery : (argsOf node).get? imageryKey = some input) (nonempty : input ≠ .array []) :
    Clean r node false := by
  intro path e h
  obtain ⟨kind', -⟩ | starved | ⟨above, -⟩ := h.of_names declared named bare
  · cases kind.symm.trans kind'
  · rw [kind] at starved
    cases starved with
    | operation missing => cases imagery.symm.trans missing
    | empty imagery' => exact nonempty (Option.some.inj (imagery.symm.trans imagery'))
  · cases above

omit declared in
theorem clean_of_product {id : String} (product : node.get? productKey = some (.string id))
    (extracts : r.Extracts id) : Clean r node under := by
  have selected {id' : String} (selects : Selects r node id') : id' = id := by
    cases selects with
    | leaf product' => exact Json.string.inj (Option.some.inj (product'.symm.trans product))
    | filter runs => cases runs.bare.symm.trans product
  intro path e h
  cases h with
  | invalidNode other => cases (isObject_of_get? product).symm.trans other
  | missingProcessId _ bare | unknownProcess bare => cases bare.symm.trans product
  | invalidArguments runs | argument runs | selection runs | missingImagery runs
  | operationInsideFilter runs => cases runs.bare.symm.trans product
  | product given other => exact other id (Option.some.inj (given.symm.trans product))
  | unknownProduct selects unknown =>
      obtain rfl := selected selects
      cases unknown.symm.trans extracts.1
  | unmappedProduct selects _ unmapped =>
      obtain rfl := selected selects
      obtain ⟨_, mapped⟩ := extracts.2
      cases unmapped.symm.trans mapped

/-! ### Graphs without faults -/

theorem IsSource.allClean (h : IsSource r node) : ∀ under, AllClean r node under := by
  induction h with
  | product product extracted =>
      refine fun under => .intro (clean_of_product product extracted) fun steps next b child => ?_
      cases child.bare.symm.trans product
  | selection bare named kind product extracted =>
      refine fun under => .intro (clean_of_filter declared named bare kind
        (fun _ given => ⟨_, Option.some.inj (given.symm.trans product), extracted⟩)
        (fun absent => by cases absent.symm.trans product)) fun steps next b child => ?_
      obtain ⟨absent, -⟩ := child.of_filter (named.runs declared bare) kind
      cases absent.symm.trans product
  | filter bare named kind absent imagery source ih =>
      refine fun under => .intro (clean_of_filter declared named bare kind
        (fun _ given => by cases absent.symm.trans given)
        (fun _ missing => by cases imagery.symm.trans missing)) fun steps next b child => ?_
      obtain ⟨-, imagery', -⟩ := child.of_filter (named.runs declared bare) kind
      obtain rfl := Option.some.inj (imagery'.symm.trans imagery)
      exact ih b

theorem IsNode.allClean (h : IsNode r node) : AllClean r node false := by
  induction h with
  | source source => exact source.allClean declared false
  | @unary node input p bare named kind imagery isNode ih =>
      have single : ∀ items, input ≠ .array items := by
        rintro items rfl
        cases isNode.isObject
      have clean := clean_of_operation declared named bare kind imagery (single [])
      refine .intro clean fun steps next b child => ?_
      obtain ⟨rfl, -, rfl⟩ := child.of_single (named.runs declared bare) kind imagery single
      exact ih
  | nary bare named kind imagery nonempty _ ih =>
      have clean := clean_of_operation declared named bare kind imagery
        (fun empty => nonempty (Json.array.inj empty))
      refine .intro clean fun steps next b child => ?_
      obtain ⟨i, at_index, -, rfl⟩ := child.of_items (named.runs declared bare) kind imagery
      exact ih _ (List.mem_of_getElem? at_index)

end Declared

/-! ### Where paths lead -/

theorem follow_of_child (h : Child r node steps next b) : steps.follow node = some next := by
  have input {value : Json} (hv : (argsOf node).get? imageryKey = some value) :
      GraphStep.imagery.follow node = some value := by
    rw [argsOf] at hv
    split at hv
    · rename_i members hargs
      rw [GraphStep.follow, hargs]
      exact hv
    · cases hv
  cases h with
  | chained _ _ _ imagery | only _ _ imagery => simp [GraphPath.follow, input imagery]
  | item _ _ imagery at_index =>
      rw [GraphPath.follow, input imagery, Option.bind_some]
      simp [GraphPath.follow, GraphStep.follow, Json.items?, at_index]

theorem follow_of_reaches {last : Json} {b' : Bool} (h : Reaches r node b path last b') :
    path.follow node = some last := by
  induction h with
  | here => rfl
  | step child _ ih => rw [GraphPath.follow_append, follow_of_child child, Option.bind_some, ih]

end Node
end ImageryJobs
