import ImageryJobs.Graph.TaskList
import ImageryJobs.Proofs.Failing

/-!
The language of process graphs, as a grammar over JSON values. A source is a product or a chain of
filters that ends at one; a node is a source or an operation on nodes, so that no operation stands
below a filter. A graph is compiled just if it is a node.
-/

namespace ImageryJobs

namespace Process

variable {p : Process} {path : String} {args : Members} {name : String} {parameter : Parameter}

/-- An argument is there if it is required; where it is there, it has the declared type and, if it
is a text, matches the pattern. -/
def Satisfies (p : Process) (args : Members) (name : String) (parameter : Parameter) : Prop :=
  (args.get? name = none → parameter.required = false) ∧
    ∀ value, args.get? name = some value → parameter.type.accepts value = true ∧
      ∀ pattern text, p.pattern? name = some pattern → value = .string text →
        pattern.occursIn text = true

/-- All declared arguments are as declared. -/
def Accepts (p : Process) (args : Members) : Prop :=
  ∀ name parameter, (name, parameter) ∈ p.spec.parameters.entries → p.Satisfies args name parameter

theorem checkArgument_eq_ok :
    p.checkArgument path args name parameter = .ok () ↔ p.Satisfies args name parameter := by
  unfold checkArgument Satisfies
  cases hv : args.get? name with
  | none => cases parameter.required <;> simp
  | some value =>
      cases ht : parameter.type.accepts value with
      | false => simp [ht]
      | true =>
          cases hp : p.pattern? name with
          | none => simp [ht]
          | some pattern => cases value <;> simp [ht]

theorem validate_eq_ok : p.validate path args = .ok () ↔ p.Accepts args := by
  rw [validate, forM_eq_ok]
  constructor
  · intro h name parameter hm
    exact checkArgument_eq_ok.1 (h (name, parameter) hm)
  · intro h entry hm
    exact checkArgument_eq_ok.2 (h entry.1 entry.2 hm)

end Process

/-- A product is registered, and some process extracts it. -/
def Registries.Extracts (r : Registries) (productId : String) : Prop :=
  r.products.contains productId = true ∧
    ∃ processId, r.mapping.extraction.get? productId = some processId

namespace Node

/-- A value has a registered process, whose arguments, if there are any, are an object that it
accepts. -/
structure Names (r : Registries) (node : Json) (p : Process) : Prop where
  process : ∃ processId, node.get? processKey = some (.string processId) ∧
    r.processes.get? processId = some p
  args : ∀ args, node.get? argsKey = some args → args.isObject = true
  accepted : p.Accepts (argsOf node)

/-- A product, or filters down to one. A value that has a product is nothing else. -/
inductive IsSource (r : Registries) : Json → Prop where
  | product {node : Json} {productId : String}
      (product : node.get? productKey = some (.string productId))
      (extracted : r.Extracts productId) : IsSource r node
  | selection {node : Json} {p : Process} {productId : String}
      (bare : node.get? productKey = none) (named : Names r node p)
      (kind : p.spec.kind = .filter)
      (product : (argsOf node).get? productKey = some (.string productId))
      (extracted : r.Extracts productId) : IsSource r node
  | filter {node next : Json} {p : Process}
      (bare : node.get? productKey = none) (named : Names r node p)
      (kind : p.spec.kind = .filter)
      (absent : (argsOf node).get? productKey = none)
      (imagery : (argsOf node).get? imageryKey = some next)
      (source : IsSource r next) : IsSource r node

inductive IsNode (r : Registries) : Json → Prop where
  | source {node : Json} (source : IsSource r node) : IsNode r node
  | unary {node input : Json} {p : Process}
      (bare : node.get? productKey = none) (named : Names r node p)
      (kind : p.spec.kind = .operation)
      (imagery : (argsOf node).get? imageryKey = some input)
      (isNode : IsNode r input) : IsNode r node
  | nary {node : Json} {items : List Json} {p : Process}
      (bare : node.get? productKey = none) (named : Names r node p)
      (kind : p.spec.kind = .operation)
      (imagery : (argsOf node).get? imageryKey = some (.array items))
      (nonempty : items ≠ [])
      (areNodes : ∀ item ∈ items, IsNode r item) : IsNode r node

/-- A value is the input of a filter without a product, or of one that is the input of another. -/
inductive BelowFilter (r : Registries) : Json → Json → Prop where
  | input {node next : Json} {p : Process}
      (bare : node.get? productKey = none) (named : Names r node p)
      (kind : p.spec.kind = .filter)
      (absent : (argsOf node).get? productKey = none)
      (imagery : (argsOf node).get? imageryKey = some next) : BelowFilter r node next
  | deeper {node next below : Json} (first : BelowFilter r node next)
      (rest : BelowFilter r next below) : BelowFilter r node below

variable {r : Registries} {node : Json} {p q : Process} {merged : Members} {path : GraphPath}

theorem Names.unique (hp : Names r node p) (hq : Names r node q) : p = q := by
  obtain ⟨id, hid, hp⟩ := hp.process
  obtain ⟨id', hid', hq⟩ := hq.process
  cases hid.symm.trans hid'
  exact Option.some.inj (hp.symm.trans hq)

theorem isObject_of_get? {key : String} {value : Json} (h : node.get? key = some value) :
    node.isObject = true := by
  cases node with
  | object _ => rfl
  | null | bool _ | number _ | string _ | array _ => cases h

theorem Names.isObject (h : Names r node p) : node.isObject = true :=
  let ⟨_, hid, _⟩ := h.process
  isObject_of_get? hid

theorem IsSource.isObject (h : IsSource r node) : node.isObject = true := by
  cases h with
  | product product => exact isObject_of_get? product
  | selection _ named | filter _ named => exact named.isObject

/-! ### Parts of reading -/

theorem productIdOf_eq_ok {product : Json} {owner id : String} :
    productIdOf product path owner = .ok id ↔ product = .string id := by
  cases product <;> simp [productIdOf]

theorem extractionOf_ok_iff {id : String} {args : Members} :
    (∃ n, extractionOf r id args path = .ok n) ↔ r.Extracts id := by
  unfold extractionOf Registries.Extracts
  cases r.products.contains id with
  | false => simp
  | true => cases r.mapping.extraction.get? id <;> simp

theorem processOf_eq_ok : processOf r node path = .ok p ↔ Names r node p := by
  unfold processOf
  constructor
  · intro h
    split at h
    · rename_i id hid
      split at h
      · rename_i p' hp
        have hid : node.get? processKey = some (.string id) := by
          obtain ⟨value, hv, hs⟩ := Option.bind_eq_some_iff.1 hid
          cases value with
          | string text =>
              cases hs
              exact hv
          | null | bool _ | number _ | array _ | object _ => cases hs
        have accepted (h : (do p'.validate path.text (argsOf node); pure p') = .ok p) :
            p' = p ∧ p'.Accepts (argsOf node) := by
          obtain ⟨_, hval, heq⟩ := bind_eq_ok.1 h
          exact ⟨Except.ok.inj heq, Process.validate_eq_ok.1 hval⟩
        split at h
        · rename_i hargs
          obtain ⟨rfl, hacc⟩ := accepted h
          exact ⟨⟨id, hid, hp⟩, by simp [hargs], hacc⟩
        · rename_i members hargs
          obtain ⟨rfl, hacc⟩ := accepted h
          exact ⟨⟨id, hid, hp⟩, by simp [hargs, Json.isObject], hacc⟩
        · cases h
      · cases h
    · cases h
  · intro h
    obtain ⟨id, hid, hp⟩ := h.process
    have hval : p.validate path.text (argsOf node) = .ok () := Process.validate_eq_ok.2 h.accepted
    have done : (do p.validate path.text (argsOf node); pure p) = Except.ok p := by
      rw [hval]
      rfl
    rw [hid]
    simp only [Option.bind_some, Json.string?, hp]
    cases hargs : node.get? argsKey with
    | none => exact done
    | some args =>
        have hobj := h.args args hargs
        cases args with
        | object members => exact done
        | null | bool _ | number _ | string _ | array _ => cases hobj

/-! ### Chains of filters -/

theorem isSource_of_product {product : Json} (h : node.get? productKey = some product) :
    IsSource r node ↔ ∃ id, product = .string id ∧ r.Extracts id := by
  constructor
  · intro source
    cases source with
    | product product extracted => exact ⟨_, Option.some.inj (h.symm.trans product), extracted⟩
    | selection bare | filter bare => cases h.symm.trans bare
  · rintro ⟨id, rfl, extracted⟩
    exact .product h extracted

/-- The arguments of a filter hold a product, or else a source as the input. -/
def HoldsSource (r : Registries) (node : Json) : Prop :=
  (∃ id, (argsOf node).get? productKey = some (.string id) ∧ r.Extracts id) ∨
    (argsOf node).get? productKey = none ∧
      ∃ next, (argsOf node).get? imageryKey = some next ∧ IsSource r next

theorem isSource_of_bare (bare : node.get? productKey = none) :
    IsSource r node ↔ ∃ p, Names r node p ∧ p.spec.kind = .filter ∧ HoldsSource r node := by
  constructor
  · intro source
    cases source with
    | product product => cases bare.symm.trans product
    | selection _ named kind product extracted =>
        exact ⟨_, named, kind, .inl ⟨_, product, extracted⟩⟩
    | filter _ named kind absent imagery source =>
        exact ⟨_, named, kind, .inr ⟨absent, _, imagery, source⟩⟩
  · rintro ⟨p, named, kind, ⟨id, product, extracted⟩ | ⟨absent, next, imagery, source⟩⟩
    · exact .selection bare named kind product extracted
    · exact .filter bare named kind absent imagery source

theorem readChain_of_missing (hp : (argsOf node).get? productKey = none)
    (hi : (argsOf node).get? imageryKey = none) :
    readChain r node p merged path = .error (.missingImagery path.text p.spec.processId) := by
  rw [readChain]
  split
  · rename_i heq
    cases heq.symm.trans hp
  · split
    · rfl
    · rename_i heq
      cases heq.symm.trans hi

/-- A filter without a product goes on with its input. -/
theorem readChain_of_imagery {next : Json} (hp : (argsOf node).get? productKey = none)
    (hi : (argsOf node).get? imageryKey = some next) :
    readChain r node p merged path =
      let merged := merged.union ((argsOf node).erase imageryKey)
      let path := path ++ [.imagery]
      if next.isObject then
        match next.get? productKey with
        | some product => do
            let productId ← productIdOf product path "product"
            extractionOf r productId (merged.insertNew productKey (.string productId)) path
        | none => do
            let process ← processOf r next path
            if process.spec.kind = .filter then readChain r next process merged path
            else .error (.operationInsideFilter path.text process.spec.processId)
      else .error (.invalidNode path.text) := by
  rw [readChain]
  split
  · rename_i heq
    cases heq.symm.trans hp
  · split
    · rename_i heq
      cases heq.symm.trans hi
    · rename_i heq
      cases heq.symm.trans hi
      rfl

theorem readChain_ok_iff :
    (∃ n, readChain r node p merged path = .ok n) ↔ HoldsSource r node := by
  unfold HoldsSource
  induction node, p, merged, path using readChain.induct with
  | case1 node p merged path product hp =>
      simp [readChain, hp, exists_bind_eq_ok, productIdOf_eq_ok, extractionOf_ok_iff]
  | case2 node p merged path hp hi => simp [readChain_of_missing hp hi, hp, hi]
  | case3 node p merged path hp next hi hobj product hn =>
      simp [readChain_of_imagery hp hi, hobj, hn, exists_bind_eq_ok, productIdOf_eq_ok,
        extractionOf_ok_iff, hp, hi, isSource_of_product hn]
  | case4 node p merged path merged' hp next hi path' hobj hn ih =>
      have below (q : Process) :
          (∃ n, (if q.spec.kind = .filter then readChain r next q merged' path'
            else .error (.operationInsideFilter path'.text q.spec.processId)) = .ok n) ↔
          q.spec.kind = .filter ∧ HoldsSource r next := by
        by_cases kind : q.spec.kind = .filter
        · rw [if_pos kind, ih q, HoldsSource]
          exact (and_iff_right kind).symm
        · simp [kind]
      have chained : (∃ n, readChain r node p merged path = .ok n) ↔ IsSource r next := by
        rw [readChain_of_imagery hp hi, isSource_of_bare hn]
        simp only [hobj, hn, if_true, exists_bind_eq_ok, processOf_eq_ok]
        exact exists_congr fun q => and_congr_right fun _ => below q
      simp [chained, hp, hi]
  | case5 node p merged path hp next hi hobj =>
      have none_source : ¬ IsSource r next := fun source => hobj source.isObject
      simp [readChain_of_imagery hp hi, hobj, hp, hi, none_source]

/-! ### Nodes -/

theorem isNode_of_product {product : Json} (h : node.get? productKey = some product) :
    IsNode r node ↔ ∃ id, product = .string id ∧ r.Extracts id := by
  rw [← isSource_of_product h]
  constructor
  · intro isNode
    cases isNode with
    | source source => exact source
    | unary bare | nary bare => cases h.symm.trans bare
  · exact .source

theorem isNode_of_filter (bare : node.get? productKey = none) (named : Names r node p)
    (kind : p.spec.kind = .filter) : IsNode r node ↔ HoldsSource r node := by
  constructor
  · intro isNode
    cases isNode with
    | source source =>
        obtain ⟨_, _, _, holds⟩ := (isSource_of_bare bare).1 source
        exact holds
    | unary _ named' kind' | nary _ named' kind' =>
        obtain rfl := named.unique named'
        cases kind.symm.trans kind'
  · exact fun holds => .source ((isSource_of_bare bare).2 ⟨p, named, kind, holds⟩)

/-- The inputs of an operation: several nodes, or one that is no array. -/
theorem isNode_of_operation (bare : node.get? productKey = none) (named : Names r node p)
    (kind : p.spec.kind = .operation) :
    IsNode r node ↔ ∃ input, (argsOf node).get? imageryKey = some input ∧
      (IsNode r input ∨ ∃ items, input = .array items ∧ items ≠ [] ∧
        ∀ item ∈ items, IsNode r item) := by
  constructor
  · intro isNode
    cases isNode with
    | source source =>
        obtain ⟨q, named', kind', -⟩ := (isSource_of_bare bare).1 source
        obtain rfl := named.unique named'
        cases kind.symm.trans kind'
    | unary _ _ _ imagery isNode => exact ⟨_, imagery, .inl isNode⟩
    | nary _ _ _ imagery nonempty areNodes =>
        exact ⟨_, imagery, .inr ⟨_, rfl, nonempty, areNodes⟩⟩
  · rintro ⟨input, imagery, isNode | ⟨items, rfl, nonempty, areNodes⟩⟩
    · exact .unary bare named kind imagery isNode
    · exact .nary bare named kind imagery nonempty areNodes

theorem IsNode.isObject (h : IsNode r node) : node.isObject = true := by
  cases h with
  | source source => exact source.isObject
  | unary _ named | nary _ named => exact named.isObject

theorem IsNode.names (h : IsNode r node) (bare : node.get? productKey = none) :
    ∃ p, Names r node p := by
  cases h with
  | source source =>
      obtain ⟨p, named, -⟩ := (isSource_of_bare bare).1 source
      exact ⟨p, named⟩
  | unary _ named | nary _ named => exact ⟨_, named⟩

theorem IsNode.source_below {below : Json} (h : IsNode r node) (hb : BelowFilter r node below) :
    IsSource r below := by
  induction hb with
  | input bare named kind absent imagery =>
      obtain ⟨id, product, -⟩ | ⟨-, next, hnext, source⟩ := (isNode_of_filter bare named kind).1 h
      · cases absent.symm.trans product
      · cases imagery.symm.trans hnext
        exact source
  | deeper _ _ ihFirst ihRest => exact ihRest (.source (ihFirst h))

/-! ### Reading -/

theorem readAt_of_product {product : Json} (h : node.get? productKey = some product) :
    readAt r node path = (do
      let productId ← productIdOf product path "product"
      extractionOf r productId (Dict.ofList [(productKey, .string productId)]) path) := by
  rw [readAt, if_pos (isObject_of_get? h), h]

/-- What an operation reads as its inputs. -/
def readInputs (r : Registries) (imagery : Option Json) (path : GraphPath) :
    Except GraphError (List Node) :=
  match imagery with
  | some (.array items) => readItems r items 0 path
  | some input => (readAt r input path).map ([·])
  | none => .ok []

theorem readInputs_of_single {input : Json} (h : ∀ items, input ≠ .array items) :
    readInputs r (some input) path = (readAt r input path).map ([·]) := by
  cases input with
  | array items => exact absurd rfl (h items)
  | null | bool _ | number _ | string _ | object _ => rfl

theorem readAt_of_bare (hobj : node.isObject = true) (bare : node.get? productKey = none) :
    readAt r node path = (do
      let process ← processOf r node path
      match process.spec.kind with
      | .filter => readChain r node process ∅ path
      | .operation => do
          let inputs ← readInputs r ((argsOf node).get? imageryKey) (path ++ [.imagery])
          if inputs.isEmpty then .error (.missingImagery path.text process.spec.processId)
          else return .operation process.spec.processId ((argsOf node).erase imageryKey) inputs)
    := by
  rw [readAt, if_pos hobj, bare]
  refine congrArg (processOf r node path >>= ·) (funext fun process => ?_)
  cases hk : process.spec.kind with
  | filter => rfl
  | operation =>
      dsimp only
      split
      · rename_i hi
        rw [hi]
        rfl
      · rename_i input hnot hi
        rw [hi]
        rw [readInputs_of_single hnot]
        cases readAt r input (path ++ [.imagery]) <;> rfl
      · rename_i hi
        rw [hi]
        rfl

theorem length_readItems {items : List Json} {index : Nat} {nodes : List Node}
    (h : readItems r items index path = .ok nodes) : nodes.length = items.length := by
  induction items generalizing index nodes with
  | nil =>
      rw [readItems] at h
      cases h
      rfl
  | cons item items ih =>
      rw [readItems] at h
      obtain ⟨n, -, h⟩ := bind_eq_ok.1 h
      obtain ⟨ns, hns, h⟩ := bind_eq_ok.1 h
      cases h
      rw [List.length_cons, List.length_cons, ih hns]

theorem readInputs_ok_iff {imagery : Option Json}
    (hitems : ∀ items, imagery = some (.array items) →
      ((∃ ns, readItems r items 0 path = .ok ns) ↔ ∀ item ∈ items, IsNode r item))
    (hinput : ∀ input, imagery = some input →
      ((∃ n, readAt r input path = .ok n) ↔ IsNode r input)) :
    (∃ ns, readInputs r imagery path = .ok ns ∧ ns.isEmpty = false) ↔
      ∃ input, imagery = some input ∧ (IsNode r input ∨ ∃ items, input = .array items ∧
        items ≠ [] ∧ ∀ item ∈ items, IsNode r item) := by
  constructor
  · rintro ⟨ns, hns, hne⟩
    unfold readInputs at hns
    split at hns
    · rename_i items
      refine ⟨_, rfl, .inr ⟨items, rfl, ?_, (hitems items rfl).1 ⟨ns, hns⟩⟩⟩
      rintro rfl
      rw [List.eq_nil_of_length_eq_zero (length_readItems hns)] at hne
      cases hne
    · rename_i input _
      cases hn : readAt r input path with
      | error e =>
          rw [hn] at hns
          cases hns
      | ok n => exact ⟨input, rfl, .inl ((hinput input rfl).1 ⟨n, hn⟩)⟩
    · cases hns
      cases hne
  · rintro ⟨input, rfl, isNode | ⟨items, rfl, nonempty, areNodes⟩⟩
    · obtain ⟨n, hn⟩ := (hinput input rfl).2 isNode
      have single : ∀ items, input ≠ .array items := by
        rintro items rfl
        cases isNode.isObject
      refine ⟨[n], ?_, rfl⟩
      rw [readInputs_of_single single, hn]
      rfl
    · obtain ⟨ns, hns⟩ := (hitems items rfl).2 areNodes
      refine ⟨ns, hns, ?_⟩
      rw [List.isEmpty_eq_false_iff, ← List.length_pos_iff, length_readItems hns]
      exact List.length_pos_iff.2 nonempty

theorem readAt_ok_iff (node : Json) (path : GraphPath) :
    (∃ n, readAt r node path = .ok n) ↔ IsNode r node := by
  refine readAt.induct (fun node path => (∃ n, readAt r node path = .ok n) ↔ IsNode r node)
    (fun items index path => (∃ ns, readItems r items index path = .ok ns) ↔
      ∀ item ∈ items, IsNode r item) ?product ?bare ?other ?nil ?cons node path
  case product =>
    intro node path hobj product hp
    rw [readAt_of_product hp, isNode_of_product hp]
    simp only [exists_bind_eq_ok, productIdOf_eq_ok, extractionOf_ok_iff]
  case bare =>
    intro node path hobj bare ihItems ihInput
    have operation (p : Process) :
        (∃ n, (do
          let inputs ← readInputs r ((argsOf node).get? imageryKey) (path ++ [.imagery])
          if inputs.isEmpty then .error (.missingImagery path.text p.spec.processId)
          else return Node.operation p.spec.processId ((argsOf node).erase imageryKey) inputs)
            = Except.ok n) ↔
        ∃ input, (argsOf node).get? imageryKey = some input ∧ (IsNode r input ∨
          ∃ items, input = .array items ∧ items ≠ [] ∧ ∀ item ∈ items, IsNode r item) := by
      rw [← readInputs_ok_iff ihItems ihInput, exists_bind_eq_ok]
      refine exists_congr fun ns => and_congr_right fun _ => ?_
      cases ns.isEmpty <;> simp [pure, Except.pure]
    rw [readAt_of_bare hobj bare, exists_bind_eq_ok]
    simp only [processOf_eq_ok]
    constructor
    · rintro ⟨p, named, h⟩
      cases kind : p.spec.kind with
      | filter =>
          rw [kind] at h
          exact (isNode_of_filter bare named kind).2 (readChain_ok_iff.1 h)
      | operation =>
          rw [kind] at h
          exact (isNode_of_operation bare named kind).2 ((operation p).1 h)
    · intro isNode
      obtain ⟨p, named⟩ := isNode.names bare
      refine ⟨p, named, ?_⟩
      cases kind : p.spec.kind with
      | filter => exact readChain_ok_iff.2 ((isNode_of_filter bare named kind).1 isNode)
      | operation => exact (operation p).2 ((isNode_of_operation bare named kind).1 isNode)
  case other =>
    intro node path hobj
    rw [readAt, if_neg hobj]
    constructor
    · rintro ⟨n, h⟩
      cases h
    · exact fun isNode => absurd isNode.isObject hobj
  case nil => simp [readItems]
  case cons =>
    intro index path item rest ihItem ihRest
    rw [readItems, List.forall_mem_cons, ← ihItem, ← ihRest, exists_bind_eq_ok]
    simp only [exists_bind_eq_ok]
    simp [pure, Except.pure]

/-- A graph is compiled just if it is a node, and then no operation stands below a filter. -/
theorem compile_ok_iff (r : Registries) (graph : Json) (jobId : String) (output : Option Json) :
    ((∃ tasks, compile r graph jobId output = .ok tasks) ↔ IsNode r graph) ∧
      (IsNode r graph → ∀ below p, BelowFilter r graph below → below.get? productKey = none →
        Names r below p → p.spec.kind = .filter) := by
  constructor
  · rw [compile, ← readAt_ok_iff graph [], read]
    cases readAt r graph [] <;> simp [Except.map]
  · intro isNode below p hbelow bare named
    obtain ⟨q, named', kind, -⟩ := (isSource_of_bare bare).1 (isNode.source_below hbelow)
    exact named.unique named' ▸ kind

end Node
end ImageryJobs
