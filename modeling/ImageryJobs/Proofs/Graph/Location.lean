import ImageryJobs.Proofs.Graph.Arguments
import ImageryJobs.Proofs.Graph.Faults

/-!
Errors of compilation point at faults. Reading checks a node before those below it, and the inputs of a
node from left to right, so that what it stops at is the first fault of the graph, also where it goes
down a chain of filters.
-/

namespace ImageryJobs

/-! ### Arguments -/

namespace Process

variable {p : Process} {path : String} {args : Members} {e : GraphError}

theorem broken_of_flaw (declared : ofSpec p.spec = .ok p) {name : String}
    (h : p.spec.Flaw path args name e) : p.spec.Broken path args e := by
  cases h with
  | missing hget required absent => exact .missing hget required absent
  | mistyped hget given other =>
      rw [← ArgumentType.accepts_iff] at other
      exact .mistyped hget given (by simpa using other)
  | mismatched hget given _ written other =>
      obtain ⟨pattern, read⟩ := read_of_ofSpec declared hget written
      have unmatched : ¬ pattern.occursIn _ = true := fun occurs => other ⟨pattern, read, occurs⟩
      exact .mismatched hget written read given (by simpa using unmatched)

theorem validate_broken (declared : ofSpec p.spec = .ok p) (h : p.validate path args = .error e) :
    p.spec.Broken path args e := by
  obtain ⟨name, flaw, -⟩ := (validate_eq_error_iff declared).1 h
  exact broken_of_flaw declared flaw

end Process

namespace Node

variable {r : Registries} {node next : Json} {p : Process} {under : Bool} {path : GraphPath}
  {e : GraphError}

/-! ### Single nodes -/

theorem extractionOf_violates {id : String} {args : Members} (selects : Selects r node id)
    (h : extractionOf r id args path = .error e) : Violates r node path under e := by
  unfold extractionOf at h
  split at h
  · rename_i known
    split at h
    · cases h
    · cases h
      exact .unmappedProduct selects known ‹_›
  · rename_i unknown
    cases h
    exact .unknownProduct selects (by simpa using unknown)

theorem productIdOf_eq_error {product : Json} {owner : String}
    (h : productIdOf product path owner = .error e) : (∀ id, product ≠ .string id) ∧
      e = .invalidArgumentType path.text owner productKey .string product.typeName := by
  unfold productIdOf at h
  split at h
  · cases h
  · rename_i other
    cases h
    exact ⟨fun id hid => other id hid, rfl⟩

theorem fault_of_product {product : Json} {args : String → Members}
    (given : node.get? productKey = some product)
    (h : (do
      let productId ← productIdOf product path "product"
      extractionOf r productId (args productId) path) = .error e) : Fault r node under path e := by
  obtain h | ⟨id, hid, h⟩ := bind_eq_error.1 h
  · obtain ⟨other, rfl⟩ := productIdOf_eq_error h
    exact .here (.product given other)
  · obtain rfl := productIdOf_eq_ok.1 hid
    exact .here (extractionOf_violates (.leaf given) h)

section Declared

variable (declared : Registries.Declared r.processes)

include declared

theorem processOf_violates (object : node.isObject = true) (bare : node.get? productKey = none)
    (h : processOf r node path = .error e) : Violates r node path under e := by
  unfold processOf at h
  split at h
  · rename_i id hid
    have hid : node.get? processKey = some (.string id) := by
      obtain ⟨value, hv, hs⟩ := Option.bind_eq_some_iff.1 hid
      cases value <;> cases hs
      exact hv
    split at h
    · rename_i p hp
      have runs := runs_of_registered declared bare hid hp
      have checked (h : (do p.validate path.text (argsOf node); pure p) = .error e) :
          Violates r node path under e := by
        obtain hval | ⟨_, -, heq⟩ := bind_eq_error.1 h
        · exact .argument runs (Process.validate_broken (declared id p hp).2 hval)
        · cases heq
      split at h
      · exact checked h
      · exact checked h
      · rename_i args notObject given
        cases h
        refine .invalidArguments runs given ?_
        cases args with
        | object members => exact absurd rfl (notObject members)
        | null | bool _ | number _ | string _ | array _ => rfl
    · rename_i unknown
      cases h
      exact .unknownProcess bare hid (Option.eq_none_iff_forall_ne_some.2 fun p hp => unknown p hp)
  · rename_i unnamed
    cases h
    refine .missingProcessId object bare fun id hid => ?_
    rw [hid] at unnamed
    exact unnamed id rfl

/-! ### Chains and operations -/

/-- A filter without a product is at fault where its input is. -/
theorem Fault.chained (named : Names r node p) (bare : node.get? productKey = none)
    (kind : p.spec.kind = .filter) (absent : (argsOf node).get? productKey = none)
    (imagery : (argsOf node).get? imageryKey = some next)
    (h : Fault r next true (path ++ [.imagery]) e) : Fault r node under path e := by
  refine .only (clean_of_filter declared named bare kind ?_ ?_)
    (.chained (named.runs declared bare) kind absent imagery) h
  · exact fun _ given => by cases absent.symm.trans given
  · exact fun _ missing => by cases imagery.symm.trans missing

theorem readChain_fault (named : Names r node p) (bare : node.get? productKey = none)
    (kind : p.spec.kind = .filter) {merged : Members} (h : readChain r node p merged path = .error e) :
    ∀ under, Fault r node under path e := by
  intro under
  induction node, p, merged, path using readChain.induct generalizing under with
  | case1 node p merged path product hp =>
      have runs := named.runs declared bare
      rw [readChain, hp] at h
      obtain h | ⟨id, hid, h⟩ := bind_eq_error.1 h
      · obtain ⟨other, rfl⟩ := productIdOf_eq_error h
        exact .here (.selection runs kind hp other)
      · obtain rfl := productIdOf_eq_ok.1 hid
        exact .here (extractionOf_violates (.filter runs kind hp) h)
  | case2 node p merged path hp hi =>
      rw [readChain_of_missing hp hi] at h
      cases h
      exact .here (.missingImagery (named.runs declared bare) (kind ▸ .filter hp hi))
  | case3 node p merged path hp next hi hobj product hn =>
      simp only [readChain_of_imagery hp hi, hobj, hn, if_true] at h
      exact .chained declared named bare kind hp hi (fault_of_product hn h)
  | case4 node p merged path merged' hp next hi path' hobj hn ih =>
      simp only [readChain_of_imagery hp hi, hobj, hn, if_true] at h
      refine .chained declared named bare kind hp hi ?_
      obtain h | ⟨q, hq, h⟩ := bind_eq_error.1 h
      · exact .here (processOf_violates declared hobj hn h)
      · have named' := processOf_eq_ok.1 hq
        split at h
        · exact ih q named' hn ‹_› h true
        · rename_i other
          cases h
          refine .here (.operationInsideFilter (named'.runs declared hn) ?_)
          cases kind' : q.spec.kind with
          | filter => exact absurd kind' other
          | operation => rfl
  | case5 node p merged path hp next hi hobj =>
      simp only [readChain_of_imagery hp hi, hobj] at h
      cases h
      exact .chained declared named bare kind hp hi (.here (.invalidNode (by simpa using hobj)))

/-- An operation is at fault where the first of its inputs is that cannot be read, or for want of any. -/
theorem operation_fault (named : Names r node p) (bare : node.get? productKey = none)
    (kind : p.spec.kind = .operation)
    (hitems : ∀ items, (argsOf node).get? imageryKey = some (.array items) →
      readItems r items 0 (path ++ [.imagery]) = .error e → ∃ i item, items[i]? = some item ∧
        Fault r item false (path ++ [GraphStep.imagery] ++ [.item (0 + i)]) e ∧
        ∀ j item', j < i → items[j]? = some item' → IsNode r item')
    (hinput : ∀ input, (argsOf node).get? imageryKey = some input →
      readAt r input (path ++ [GraphStep.imagery]) = .error e →
        Fault r input false (path ++ [GraphStep.imagery]) e)
    {made : List Node → Node}
    (h : (do
      let inputs ← readInputs r ((argsOf node).get? imageryKey) (path ++ [GraphStep.imagery])
      if inputs.isEmpty then .error (.missingImagery path.text p.spec.processId)
      else return made inputs) = .error e) : Fault r node false path e := by
  have runs := named.runs declared bare
  cases imagery : (argsOf node).get? imageryKey with
  | none =>
      rw [imagery] at h
      cases h
      exact .here (.missingImagery runs (kind ▸ .operation imagery))
  | some input =>
      rw [imagery] at h
      by_cases single : ∀ items, input ≠ .array items
      · rw [readInputs_of_single single] at h
        cases hn : readAt r input (path ++ [.imagery]) with
        | error e' =>
            rw [hn] at h
            cases h
            exact .only (clean_of_operation declared named bare kind imagery (single []))
              (.only runs kind imagery single) (hinput input imagery hn)
        | ok n =>
            rw [hn] at h
            cases h
      · obtain ⟨items, rfl⟩ : ∃ items, input = .array items := by simpa using single
        obtain h | ⟨nodes, hnodes, h⟩ := bind_eq_error.1 h
        · obtain ⟨i, item, hi, fault, before⟩ := hitems items imagery h
          have nonempty : Json.array items ≠ .array [] := by
            intro empty
            cases empty
            cases hi
          refine .step (clean_of_operation declared named bare kind imagery nonempty)
            (.item runs kind imagery hi) (fun steps' next' b' child earlier => ?_)
            (by simpa using fault)
          obtain ⟨j, hj, rfl, rfl⟩ := child.of_items runs kind imagery
          exact (before j _ (GraphPath.lt_of_before earlier) hj).allClean declared
        · split at h
          · rename_i empty
            cases h
            have none := length_readItems hnodes
            rw [List.isEmpty_iff.1 empty] at none
            obtain rfl := List.eq_nil_of_length_eq_zero none.symm
            exact .here (.missingImagery runs (kind ▸ .empty imagery))
          · cases h

/-- What the reading of a node stops at is its first fault, or the first of those below it. -/
theorem readAt_fault (node : Json) (path : GraphPath) (h : readAt r node path = .error e) :
    Fault r node false path e := by
  refine readAt.induct (fun node path => readAt r node path = .error e → Fault r node false path e)
    (fun items index path => readItems r items index path = .error e →
      ∃ i item, items[i]? = some item ∧ Fault r item false (path ++ [.item (index + i)]) e ∧
        ∀ j item', j < i → items[j]? = some item' → IsNode r item')
    ?product ?bare ?other ?nil ?cons node path h
  case product =>
    intro node path hobj product hp h
    rw [readAt_of_product hp] at h
    exact fault_of_product hp h
  case bare =>
    intro node path hobj bare ihItems ihInput h
    rw [readAt_of_bare hobj bare] at h
    obtain h | ⟨p, hproc, h⟩ := bind_eq_error.1 h
    · exact .here (processOf_violates declared hobj bare h)
    have named := processOf_eq_ok.1 hproc
    cases kind : p.spec.kind with
    | filter =>
        rw [kind] at h
        exact readChain_fault declared named bare kind h false
    | operation =>
        rw [kind] at h
        exact operation_fault declared named bare kind (fun items hi => ihItems items hi)
          (fun input hi => ihInput input hi) h
  case other =>
    intro node path hobj h
    rw [readAt, if_neg hobj] at h
    cases h
    exact .here (.invalidNode (by simpa using hobj))
  case nil =>
    intro index path h
    rw [readItems] at h
    cases h
  case cons =>
    intro index path item rest ihItem ihRest h
    rw [readItems] at h
    obtain h | ⟨n, hn, h⟩ := bind_eq_error.1 h
    · exact ⟨0, item, rfl, ihItem h, fun j _ hj => absurd hj (Nat.not_lt_zero j)⟩
    obtain h | ⟨_, -, heq⟩ := bind_eq_error.1 h
    · obtain ⟨i, next, hi, fault, before⟩ := ihRest h
      refine ⟨i + 1, next, hi, by rwa [Nat.add_right_comm, Nat.add_assoc] at fault, ?_⟩
      intro j next' hj hnext
      cases j with
      | zero =>
          cases hnext
          exact (readAt_ok_iff item _).1 ⟨n, hn⟩
      | succ j => exact before j next' (Nat.lt_of_succ_lt_succ hj) hnext
    · cases heq

end Declared

/-- A graph that is compiled has no node with which something is wrong. If a graph is not compiled, the
error says what is wrong with the first node, in pre-order, with which something is wrong; and if the
error shows a path, it is the path to that node. -/
theorem compile_error_located {specs : List ProcessSpec}
    (built : Registries.processesOf specs = .ok r.processes) (graph : Json) (jobId : String)
    (output : Option Json) :
    (∀ tasks, compile r graph jobId output = .ok tasks → AllClean r graph false) ∧
    ∀ e, compile r graph jobId output = .error e → ∃ path node under,
      Reaches r graph false path node under ∧ Violates r node path under e ∧
      (∀ path' node' under', Reaches r graph false path' node' under' →
        Clean r node' under' ∨ path' = path ∨ path.Before path') ∧
      ∀ path' : GraphPath, e.path? = some path'.text → path' = path ∧ path'.follow graph = some node := by
  have declared := Registries.declared_of_processesOf built
  constructor
  · intro tasks h
    obtain ⟨n, read, -⟩ := map_eq_ok.1 h
    exact ((readAt_ok_iff graph []).1 ⟨n, read⟩).allClean declared
  · intro e h
    have failed : readAt r graph [] = .error e := map_eq_error.1 h
    obtain ⟨path, node, under, reaches, violates, first⟩ := readAt_fault declared graph [] failed
    refine ⟨path, node, under, reaches, violates, first, fun path' hpath => ?_⟩
    obtain rfl := GraphPath.text_inj (violates.text_eq hpath)
    exact ⟨rfl, follow_of_reaches reaches⟩

/-- An operation below a filter, which is the second input of an operation. What is wrong with the third
input is not reported. -/
theorem compile_error_located_below_filter :
    let specs : List ProcessSpec := [⟨"mosaic", .operation, "", ∅⟩, ⟨"crop", .filter, "", ∅⟩]
    let r : Registries := {
      processes := match Registries.processesOf specs with
        | .ok processes => processes
        | .error _ => ∅
      products := Registries.productsOf [⟨"s", ""⟩]
      mapping := ⟨Dict.ofList [("s", "extract")]⟩ }
    let graph : Json := .mk [("process_id", .string "mosaic"), ("args", .mk [("imagery", .array
      [.mk [("product_id", .string "s")],
        .mk [("process_id", .string "crop"),
          ("args", .mk [("imagery", .mk [("process_id", .string "mosaic")])])],
        .null])])]
    let e : GraphError :=
      .operationInsideFilter "process_graph.args.imagery[1].args.imagery" "mosaic"
    Registries.processesOf specs = .ok r.processes ∧ compile r graph "j" none = .error e ∧
      ∃ node under, GraphPath.follow [.imagery, .item 1, .imagery] graph = some node ∧
        Violates r node [.imagery, .item 1, .imagery] under e := by
  intro specs r graph e
  have built : Registries.processesOf specs = .ok r.processes := rfl
  have failed : compile r graph "j" none = .error e := by decide +kernel
  obtain ⟨path, node, under, -, violates, -, shown⟩ :=
    (compile_error_located built graph "j" none).2 e failed
  have text : e.path? = some (GraphPath.text [.imagery, .item 1, .imagery]) := by decide +kernel
  obtain ⟨rfl, leads⟩ := shown _ text
  exact ⟨built, failed, node, under, leads, violates⟩

end Node
end ImageryJobs
