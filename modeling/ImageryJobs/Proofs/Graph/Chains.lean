import ImageryJobs.Proofs.Graph.Language
import ImageryJobs.Proofs.Members
import Mathlib.Data.List.Pairwise
import Mathlib.Data.List.Perm.Basic

/-!
What a chain of filters is worth. Reading a filter is reading its input and putting the arguments of
the filter before those that were found; so the arguments of a chain are the union of those of its
filters, the root first, and filters that set different arguments can change places, wherever in a
graph the chain stands.
-/

namespace ImageryJobs

/-- A filter without its input. -/
structure Filter where
  processId : String
  args : Members

namespace Node

variable {r : Registries} {node next input last : Json} {p : Process} {merged a b : Members}
  {path : GraphPath} {n below : Node} {productId : String}

/-- The arguments of filters stand before those of the extraction below. An operation is no input of
a filter. -/
def restrict (args : Members) : Node → Option Node
  | .extraction productId processId below => some (.extraction productId processId (args.union below))
  | .operation _ _ _ => none

theorem restrict_restrict (n : Node) :
    (restrict b n).bind (restrict a) = restrict (a.union b) n := by
  cases n with
  | extraction => simp [restrict, Dict.union_assoc]
  | operation => rfl

/-! ### Reading one filter -/

theorem extractionOf_eq_ok : extractionOf r productId a path = .ok n ↔
    r.products.contains productId = true ∧
      ∃ processId, r.mapping.extraction.get? productId = some processId ∧
        n = .extraction productId processId a := by
  unfold extractionOf
  cases r.products.contains productId with
  | false => simp
  | true => cases r.mapping.extraction.get? productId <;> simp [eq_comm]

theorem bind_extractionOf_eq_ok {x : Except GraphError String} {above found : String → Members}
    (h : ∀ id, above id = merged.union (found id)) :
    (x >>= fun id => extractionOf r id (above id) path) = .ok n ↔
      ∃ below, (x >>= fun id => extractionOf r id (found id) path) = .ok below ∧
        restrict merged below = some n := by
  simp only [bind_eq_ok, extractionOf_eq_ok]
  constructor
  · rintro ⟨id, hid, registered, processId, mapped, rfl⟩
    exact ⟨_, ⟨id, hid, registered, processId, mapped, rfl⟩, by rw [restrict, h]⟩
  · rintro ⟨below, ⟨id, hid, registered, processId, mapped, rfl⟩, heq⟩
    rw [restrict, ← h] at heq
    exact ⟨id, hid, registered, processId, mapped, (Option.some.inj heq).symm⟩

/-- What was merged above the rest of a chain stands before what the rest is worth. -/
theorem readChain_eq_ok_merged (node : Json) (p : Process) (path : GraphPath) :
    ∀ (merged : Members) (n : Node), readChain r node p merged path = .ok n ↔
      ∃ below, readChain r node p ∅ path = .ok below ∧ restrict merged below = some n := by
  refine readChain.induct (fun node p _ path => ∀ merged n, readChain r node p merged path = .ok n ↔
    ∃ below, readChain r node p ∅ path = .ok below ∧ restrict merged below = some n)
    ?product ?missing ?leaf ?filter ?other node p ∅ path
  case product =>
    intro node p _ path product hp merged n
    have own (merged : Members) : readChain r node p merged path = (do
        let productId ← productIdOf product path p.spec.processId
        extractionOf r productId (merged.union ((argsOf node).erase imageryKey)) path) := by
      rw [readChain, hp]
    rw [own, own, bind_extractionOf_eq_ok]
    intro _
    rw [Dict.empty_union]
  case missing =>
    intro node p _ path hp hi merged n
    simp [readChain_of_missing hp hi]
  case leaf =>
    intro node p _ path hp next hi hobj product hn merged n
    rw [readChain_of_imagery hp hi, readChain_of_imagery hp hi]
    simp only [hobj, hn, if_true]
    refine bind_extractionOf_eq_ok fun _ => ?_
    rw [Dict.empty_union, Dict.union_insertNew]
  case filter =>
    intro node p _ path _ hp next hi _ hobj hn ih merged n
    rw [readChain_of_imagery hp hi, readChain_of_imagery hp hi, Dict.empty_union]
    simp only [hobj, hn, if_true, bind_eq_ok, processOf_eq_ok]
    let own := (argsOf node).erase imageryKey
    -- Both readings of the input are that under no filter, with more or less before it.
    constructor
    · rintro ⟨q, named, h⟩
      split at h
      case isFalse => cases h
      case isTrue kind =>
        obtain ⟨last, read, restricted⟩ := (ih q (merged.union own) n).1 h
        rw [← restrict_restrict] at restricted
        obtain ⟨below, inner, outer⟩ := Option.bind_eq_some_iff.1 restricted
        exact ⟨below, ⟨q, named, by rw [if_pos kind]; exact (ih q own below).2 ⟨last, read, inner⟩⟩,
          outer⟩
    · rintro ⟨below, ⟨q, named, h⟩, outer⟩
      refine ⟨q, named, ?_⟩
      split at h
      case isFalse => cases h
      case isTrue kind =>
        obtain ⟨last, read, inner⟩ := (ih q own below).1 h
        rw [if_pos kind]
        refine (ih q (merged.union own) n).2 ⟨last, read, ?_⟩
        rw [← restrict_restrict, Option.bind_eq_some_iff]
        exact ⟨below, inner, outer⟩
  case other =>
    intro node p _ path hp next hi hobj merged n
    simp [readChain_of_imagery hp hi, hobj]

/-- Under a filter an input is worth what it is worth alone, restricted. -/
theorem readChain_eq_ok_of_imagery (absent : (argsOf node).get? productKey = none)
    (imagery : (argsOf node).get? imageryKey = some next) :
    readChain r node p merged path = .ok n ↔
      ∃ below, readAt r next (path ++ [.imagery]) = .ok below ∧
        restrict (merged.union ((argsOf node).erase imageryKey)) below = some n := by
  rw [readChain_of_imagery absent imagery]
  dsimp only
  by_cases hobj : next.isObject
  swap
  · have unread : ∀ below, readAt r next (path ++ [.imagery]) ≠ .ok below := by
      intro below read
      rw [readAt, if_neg hobj] at read
      cases read
    rw [if_neg hobj]
    simp [unread]
  rw [if_pos hobj]
  cases hn : next.get? productKey with
  | some product =>
      rw [readAt_of_product hn]
      refine bind_extractionOf_eq_ok fun id => Dict.ext_get? fun key => ?_
      simp [Dict.ofList]
  | none =>
      rw [readAt_of_bare hobj hn]
      simp only [bind_eq_ok, processOf_eq_ok]
      constructor
      · rintro ⟨q, named, h⟩
        split at h
        case isFalse => cases h
        case isTrue kind =>
          obtain ⟨below, read, restricted⟩ := (readChain_eq_ok_merged next q _ _ n).1 h
          exact ⟨below, ⟨q, named, by rw [kind]; exact read⟩, restricted⟩
      · rintro ⟨below, ⟨q, named, read⟩, restricted⟩
        refine ⟨q, named, ?_⟩
        cases kind : q.spec.kind with
        | filter =>
            rw [kind] at read
            exact (readChain_eq_ok_merged next q _ _ n).2 ⟨below, read, restricted⟩
        | operation =>
            rw [kind] at read
            obtain ⟨inputs, -, read⟩ := bind_eq_ok.1 read
            split at read
            · cases read
            · cases read
              cases restricted

/-- A filter with a product of its own. -/
theorem readChain_eq_ok_of_product {product : Json}
    (held : (argsOf node).get? productKey = some product) :
    readChain r node p merged path = .ok n ↔ ∃ id, product = .string id ∧
      extractionOf r id (merged.union ((argsOf node).erase imageryKey)) path = .ok n := by
  rw [readChain, held]
  simp only [bind_eq_ok, productIdOf_eq_ok]

/-! ### Arguments that declarations do not tell apart -/

/-- No declaration of an argument tells two values apart. -/
structure Indistinct (x y : Json) : Prop where
  types : ∀ type : ArgumentType, type.accepts x = type.accepts y
  texts : ∀ text, x = .string text ↔ y = .string text

theorem Indistinct.of_isObject {x y : Json} (hx : x.isObject = true) (hy : y.isObject = true) :
    Indistinct x y := by
  cases x <;> cases hx
  cases y <;> cases hy
  exact ⟨fun type => by cases type <;> rfl, fun _ => by simp⟩

theorem Indistinct.of_item {x y : Json} (h : x.isObject = y.isObject) (before after : List Json) :
    Indistinct (.array (before ++ x :: after)) (.array (before ++ y :: after)) := by
  refine ⟨fun type => ?_, fun _ => by simp⟩
  have given (z : Json) : (before ++ z :: after).isEmpty = false := by cases before <;> rfl
  cases type <;> simp [ArgumentType.accepts, h, given]

theorem accepts_congr {args args' : Members} {x y : Json} (alike : Indistinct x y)
    (same : args.erase imageryKey = args'.erase imageryKey)
    (input : args.get? imageryKey = some x) (input' : args'.get? imageryKey = some y) :
    p.Accepts args ↔ p.Accepts args' := by
  refine forall₃_congr fun name parameter _ => ?_
  unfold Process.Satisfies
  by_cases imagery : name = imageryKey
  · subst imagery
    simp [input, input', alike.types, alike.texts]
  · have other : args.get? name = args'.get? name := by
      have found := congrArg (·.get? name) same
      simpa [imagery] using found
    rw [other]

theorem isObject_of_argsOf {key : String} {value : Json} (h : (argsOf node).get? key = some value) :
    (∃ members, node.get? argsKey = some (.object members)) ∧ node.isObject = true := by
  unfold argsOf at h
  split at h
  · rename_i members given
    exact ⟨⟨members, given⟩, isObject_of_get? given⟩
  · cases h

theorem isObject_of_readAt (h : readAt r node path = .ok n) : node.isObject = true :=
  ((readAt_ok_iff node path).1 ⟨n, h⟩).isObject

/-! ### Chains -/

end Node

namespace Filter

open Node

/-- A value is the filter over an input. -/
structure On (r : Registries) (f : Filter) (input node : Json) : Prop where
  bare : node.get? productKey = none
  process : node.get? processKey = some (.string f.processId)
  kind : ∃ p, r.processes.get? f.processId = some p ∧ p.spec.kind = .filter
  own : (argsOf node).erase imageryKey = f.args
  absent : (argsOf node).get? productKey = none
  input : (argsOf node).get? imageryKey = some input

/-- The filter can stand above others: its process is a filter, and it has no product. -/
structure Fits (r : Registries) (f : Filter) : Prop where
  kind : ∃ p, r.processes.get? f.processId = some p ∧ p.spec.kind = .filter
  absent : f.args.get? productKey = none
  bare : f.args.get? imageryKey = none

theorem On.fits {r : Registries} {f : Filter} {input node : Json} (on : f.On r input node) :
    f.Fits r := by
  refine ⟨on.kind, ?_, ?_⟩ <;> rw [← on.own]
  · rw [Dict.get?_erase, if_neg (by decide), on.absent]
  · rw [Dict.get?_erase, if_pos rfl]

/-- The filter has the arguments that its process declares. -/
def Accepted (r : Registries) (f : Filter) : Prop :=
  ∃ p, r.processes.get? f.processId = some p ∧
    p.Accepts (f.args.insert imageryKey (.object []))

/-- The filters set no argument in common. -/
def Disjoint (f g : Filter) : Prop := ∀ key, f.args.get? key = none ∨ g.args.get? key = none

end Filter

namespace Node

variable {f : Filter} {fs fs' : List Filter}

theorem names_on (on : f.On r input node) (hobj : input.isObject = true) :
    Names r node p ↔ r.processes.get? f.processId = some p ∧
      p.Accepts (f.args.insert imageryKey (.object [])) := by
  have alike : Indistinct input (.object []) := .of_isObject hobj rfl
  have same : (argsOf node).erase imageryKey =
      (f.args.insert imageryKey (.object [])).erase imageryKey := by
    refine Dict.ext_get? fun key => ?_
    rw [← on.own]
    by_cases imagery : key = imageryKey <;> simp [imagery]
  have accepted : p.Accepts (argsOf node) ↔ _ :=
    accepts_congr alike same on.input (by simp)
  constructor
  · intro named
    obtain ⟨id, hid, hp⟩ := named.process
    cases on.process.symm.trans hid
    exact ⟨hp, accepted.1 named.accepted⟩
  · rintro ⟨hp, holds⟩
    refine ⟨⟨_, on.process, hp⟩, fun args hargs => ?_, accepted.2 holds⟩
    obtain ⟨⟨members, given⟩, -⟩ := isObject_of_argsOf on.input
    cases given.symm.trans hargs
    rfl

theorem readAt_on (on : f.On r input node) : readAt r node path = .ok n ↔
    f.Accepted r ∧ ∃ below, readAt r input (path ++ [.imagery]) = .ok below ∧
      restrict f.args below = some n := by
  obtain ⟨p, hp, kind⟩ := on.kind
  have chained : readChain r node p ∅ path = .ok n ↔ ∃ below,
      readAt r input (path ++ [.imagery]) = .ok below ∧ restrict f.args below = some n := by
    rw [readChain_eq_ok_of_imagery on.absent on.input, Dict.empty_union, on.own]
  rw [readAt_of_bare (isObject_of_argsOf on.input).2 on.bare]
  simp only [bind_eq_ok, processOf_eq_ok]
  constructor
  · rintro ⟨q, named, read⟩
    obtain ⟨id, hid, hq⟩ := named.process
    cases on.process.symm.trans hid
    cases hp.symm.trans hq
    rw [kind] at read
    obtain ⟨below, inner, restricted⟩ := chained.1 read
    exact ⟨⟨p, (names_on on (isObject_of_readAt inner)).1 named⟩, below, inner, restricted⟩
  · rintro ⟨⟨q, hq, accepted⟩, below, inner, restricted⟩
    cases hp.symm.trans hq
    refine ⟨p, (names_on on (isObject_of_readAt inner)).2 ⟨hp, accepted⟩, ?_⟩
    rw [kind]
    exact chained.2 ⟨below, inner, restricted⟩

/-- Filters from the root of a chain on, over a value. -/
inductive Chain (r : Registries) : List Filter → Json → Json → Prop where
  | nil (last : Json) : Chain r [] last last
  | cons {f : Filter} {fs : List Filter} {last next node : Json} (on : f.On r next node)
      (rest : Chain r fs last next) : Chain r (f :: fs) last node

theorem Chain.fits (chain : Chain r fs last node) : ∀ f ∈ fs, f.Fits r := by
  induction chain with
  | nil => exact List.forall_mem_nil _
  | cons on rest ih => exact List.forall_mem_cons.2 ⟨on.fits, ih⟩

/-- What filters make of what is below them, the last first. -/
def restrictAll (fs : List Filter) (n : Node) : Option Node :=
  fs.foldr (fun f n => n.bind (restrict f.args)) (some n)

theorem readAt_chain (chain : Chain r fs last node) (path : GraphPath) (n : Node) :
    readAt r node path = .ok n ↔ (∀ f ∈ fs, f.Accepted r) ∧
      ∃ below, readAt r last (path ++ List.replicate fs.length .imagery) = .ok below ∧
        restrictAll fs below = some n := by
  induction chain generalizing path n with
  | nil last => simp [restrictAll]
  | @cons f fs last next node on rest ih =>
      have deeper : path ++ [.imagery] ++ List.replicate fs.length .imagery =
          path ++ List.replicate (f :: fs).length .imagery := by
        simp [List.replicate_succ]
      rw [readAt_on on, List.forall_mem_cons, and_assoc]
      refine and_congr_right fun _ => ?_
      simp only [ih, deeper]
      constructor
      · rintro ⟨next, ⟨accepted, below, read, inner⟩, outer⟩
        exact ⟨accepted, below, read, Option.bind_eq_some_iff.2 ⟨next, inner, outer⟩⟩
      · rintro ⟨accepted, below, read, restricted⟩
        obtain ⟨next, inner, outer⟩ := Option.bind_eq_some_iff.1 restricted
        exact ⟨next, ⟨accepted, below, read, inner⟩, outer⟩

/-- Filters that set different arguments can change places. -/
theorem restrictAll_perm (perm : fs.Perm fs') (apart : fs.Pairwise Filter.Disjoint) (n : Node) :
    restrictAll fs n = restrictAll fs' n := by
  let Commute (f g : Filter) : Prop := ∀ below : Option Node,
    (below.bind (restrict f.args)).bind (restrict g.args) =
      (below.bind (restrict g.args)).bind (restrict f.args)
  have apart_commute {f g : Filter} (apart : f.Disjoint g) : Commute f g := by
    intro below
    cases below with
    | none => rfl
    | some n =>
        cases n with
        | operation => rfl
        | extraction productId processId own =>
            simp [restrict, Dict.union_left_comm apart]
  have : Std.Symm Commute := ⟨fun _ _ h below => (h below).symm⟩
  have commute := List.Pairwise.forall_of_forall (R := Commute) (fun _ _ _ => rfl)
    (apart.imp apart_commute)
  exact perm.foldr_eq' (fun f hf g hg below => commute hf hg below) (some n)

/-- The arguments that a chain gives an extraction: the filter nearest the root decides. -/
theorem restrictAll_extraction (fs : List Filter) (productId processId : String) (own : Members) :
    ∃ args, restrictAll fs (.extraction productId processId own) =
        some (.extraction productId processId args) ∧
      ∀ key, args.get? key = (fs.map Filter.args ++ [own]).findSome? (·.get? key) := by
  induction fs with
  | nil => exact ⟨own, rfl, fun key => by simp⟩
  | cons f fs ih =>
      obtain ⟨args, found, keys⟩ := ih
      refine ⟨f.args.union args, ?_, fun key => ?_⟩
      · exact Option.bind_eq_some_iff.2 ⟨_, found, rfl⟩
      · rw [Dict.get?_union, keys, List.map_cons, List.cons_append, List.findSome?_cons]
        cases f.args.get? key <;> rfl

/-! ### Where chains end -/

/-- A value ends a chain with arguments of its own: it is a product, or a filter that has one. -/
inductive Ends (r : Registries) (productId : String) : Json → Members → Prop where
  | product {last : Json} (product : last.get? productKey = some (.string productId)) :
      Ends r productId last (Dict.ofList [(productKey, .string productId)])
  | selection {last : Json} {p : Process} (bare : last.get? productKey = none)
      (named : Names r last p) (kind : p.spec.kind = .filter)
      (product : (argsOf last).get? productKey = some (.string productId)) :
      Ends r productId last ((argsOf last).erase imageryKey)

theorem readAt_ends {own : Members} (ends : Ends r productId last own) :
    readAt r last path = .ok n ↔ r.products.contains productId = true ∧
      ∃ processId, r.mapping.extraction.get? productId = some processId ∧
        n = .extraction productId processId own := by
  have extracted : extractionOf r productId own path = .ok n ↔ _ := extractionOf_eq_ok
  rw [← extracted]
  cases ends with
  | product product =>
      rw [readAt_of_product product]
      rfl
  | @selection p bare named kind product =>
      have chained : readChain r last p ∅ path = .ok n ↔
          extractionOf r productId ((argsOf last).erase imageryKey) path = .ok n := by
        rw [readChain_eq_ok_of_product product, Dict.empty_union]
        simp
      rw [readAt_of_bare named.isObject bare, ← chained]
      simp only [bind_eq_ok, processOf_eq_ok]
      constructor
      · rintro ⟨q, named', read⟩
        cases named.unique named'
        rwa [kind] at read
      · intro read
        exact ⟨p, named, by rwa [kind]⟩

theorem Ends.get?_product {own : Members} (ends : Ends r productId last own) :
    own.get? productKey = some (.string productId) ∧ own.get? imageryKey = none := by
  cases ends with
  | product => exact ⟨by simp [Dict.ofList], by simp [Dict.ofList, imageryKey, productKey]⟩
  | selection _ _ _ product =>
      refine ⟨?_, by simp⟩
      rw [Dict.get?_erase, if_neg (by decide), product]

/-- Every source is a chain of filters that ends at a product. -/
theorem IsSource.exists_chain (source : IsSource r node) :
    ∃ fs last productId own, Chain r fs last node ∧ Ends r productId last own ∧
      r.Extracts productId := by
  induction source with
  | product product extracted => exact ⟨[], _, _, _, .nil _, .product product, extracted⟩
  | selection bare named kind product extracted =>
      exact ⟨[], _, _, _, .nil _, .selection bare named kind product, extracted⟩
  | @filter node next p bare named kind absent imagery source ih =>
      obtain ⟨fs, last, productId, own, chain, ends, extracted⟩ := ih
      obtain ⟨processId, process, hp⟩ := named.process
      have on : Filter.On r ⟨processId, (argsOf node).erase imageryKey⟩ next node :=
        ⟨bare, process, ⟨p, hp, kind⟩, rfl, absent, imagery⟩
      exact ⟨_, last, productId, own, .cons on chain, ends, extracted⟩

theorem IsSource.merged (source : IsSource r node) :
    ∃ fs last productId own processId args, Chain r fs last node ∧ Ends r productId last own ∧
      (∀ path, readAt r node path = .ok (.extraction productId processId args)) ∧
      r.mapping.extraction.get? productId = some processId ∧
      args.get? productKey = some (.string productId) ∧ args.get? imageryKey = none ∧
      ∀ key, args.get? key = (fs.map Filter.args ++ [own]).findSome? (·.get? key) := by
  obtain ⟨fs, last, productId, own, chain, ends, registered, processId, mapped⟩ := source.exists_chain
  obtain ⟨args, restricted, keys⟩ := restrictAll_extraction fs productId processId own
  obtain ⟨n, read⟩ := (readAt_ok_iff node []).2 (.source source)
  have accepted := ((readAt_chain chain [] n).1 read).1
  -- A key that no filter above the end sets is as at the end.
  have atEnd {key : String} (absent : ∀ f ∈ fs, f.args.get? key = none) :
      args.get? key = own.get? key := by
    have above : (fs.map Filter.args).findSome? (·.get? key) = none := by
      simpa [List.findSome?_eq_none_iff] using absent
    rw [keys, List.findSome?_append, above]
    cases h : own.get? key <;> simp [h]
  refine ⟨fs, last, productId, own, processId, args, chain, ends, fun path => ?_, mapped, ?_, ?_, keys⟩
  · exact (readAt_chain chain path _).2
      ⟨accepted, _, (readAt_ends ends).2 ⟨registered, processId, mapped, rfl⟩, restricted⟩
  · rw [atEnd fun f hf => (chain.fits f hf).absent, ends.get?_product.1]
  · rw [atEnd fun f hf => (chain.fits f hf).bare, ends.get?_product.2]

/-- What is read as an extraction is a source. -/
theorem isSource_of_readAt {processId : String} {args : Members}
    (read : readAt r node path = .ok (.extraction productId processId args)) : IsSource r node := by
  have operation {p : Process} (bare : node.get? productKey = none) (named : Names r node p) :
      p.spec.kind ≠ .operation := by
    intro kind
    rw [readAt_of_bare named.isObject bare] at read
    obtain ⟨q, hq, read⟩ := bind_eq_ok.1 read
    cases named.unique (processOf_eq_ok.1 hq)
    rw [kind] at read
    obtain ⟨inputs, -, read⟩ := bind_eq_ok.1 read
    split at read <;> cases read
  cases (readAt_ok_iff node path).1 ⟨_, read⟩ with
  | source source => exact source
  | unary bare named kind => exact absurd kind (operation bare named)
  | nary bare named kind => exact absurd kind (operation bare named)

/-- A process with arguments over an input, as a value. -/
def applied (f : Filter) (input : Json) : Json :=
  .mk [(processKey, .string f.processId), (argsKey, .ofMembers (f.args.insert imageryKey input))]

theorem argsOf_applied (f : Filter) (input : Json) :
    argsOf (applied f input) = f.args.insert imageryKey input := by
  have given : (applied f input).get? argsKey = some (.ofMembers (f.args.insert imageryKey input)) := by
    simp [applied, Json.get?_mk, Dict.ofList]
  rw [argsOf, given]
  exact Dict.ofList_entries _

theorem get?_product_applied (f : Filter) (input : Json) : (applied f input).get? productKey = none := by
  simp [applied, Json.get?_mk, Dict.ofList, productKey, processKey, argsKey]

theorem get?_process_applied (f : Filter) (input : Json) :
    (applied f input).get? processKey = some (.string f.processId) := by
  simp [applied, Json.get?_mk, Dict.ofList, processKey, argsKey]

/-- Any filter can stand over any input. -/
theorem on_applied (fits : f.Fits r) (input : Json) : f.On r input (applied f input) where
  bare := get?_product_applied f input
  process := get?_process_applied f input
  kind := fits.kind
  own := by
    refine Dict.ext_get? fun key => ?_
    rw [argsOf_applied]
    by_cases imagery : key = imageryKey <;> simp [imagery, fits.bare]
  absent := by
    rw [argsOf_applied, Dict.get?_insert, if_neg (by decide), fits.absent]
  input := by
    rw [argsOf_applied, Dict.get?_insert, if_pos rfl]

/-- The filters of a chain can be put in any order. -/
theorem Chain.exists_perm (chain : Chain r fs last node) (perm : fs.Perm fs') :
    ∃ node', Chain r fs' last node' := by
  have fit : ∀ f ∈ fs', f.Fits r := fun f hf => chain.fits f (perm.mem_iff.2 hf)
  clear perm
  induction fs' with
  | nil => exact ⟨last, .nil last⟩
  | cons f fs' ih =>
      obtain ⟨fits, later⟩ := List.forall_mem_cons.1 fit
      obtain ⟨next, rest⟩ := ih later
      exact ⟨applied f next, .cons (on_applied fits next) rest⟩

/-! ### Chains in graphs -/

/-- Two values that differ only in the input of their process. -/
structure SameBut (x y graph graph' : Json) : Prop where
  product : graph.get? productKey = graph'.get? productKey
  process : graph.get? processKey = graph'.get? processKey
  own : (argsOf graph).erase imageryKey = (argsOf graph').erase imageryKey
  input : (argsOf graph).get? imageryKey = some x
  input' : (argsOf graph').get? imageryKey = some y

/-- Two graphs that differ in one place, where one has `node` and the other `node'`. -/
inductive Surrounds (node node' : Json) : Json → Json → Prop where
  | here : Surrounds node node' node node'
  | input {x y graph graph' : Json} (same : SameBut x y graph graph')
      (inner : Surrounds node node' x y) : Surrounds node node' graph graph'
  | item {x y graph graph' : Json} {before after : List Json}
      (same : SameBut (.array (before ++ x :: after)) (.array (before ++ y :: after)) graph graph')
      (inner : Surrounds node node' x y) : Surrounds node node' graph graph'

/-- Two values are read alike, wherever they stand. -/
def Alike (r : Registries) (x y : Json) : Prop :=
  x = y ∨ x.isObject = true ∧ y.isObject = true ∧
    ∀ path n, readAt r x path = .ok n ↔ readAt r y path = .ok n

theorem Alike.readAt {x y : Json} (h : Alike r x y) (path : GraphPath) (n : Node) :
    readAt r x path = .ok n ↔ readAt r y path = .ok n := by
  obtain rfl | ⟨-, -, h⟩ := h
  · rfl
  · exact h path n

/-- Two inputs of a process that make no difference to it. -/
structure InputsAlike (r : Registries) (x y : Json) : Prop where
  indistinct : Indistinct x y
  below : ∀ path n, Node.readAt r x path = .ok n ↔ Node.readAt r y path = .ok n
  inputs : ∀ path ns, readInputs r (some x) path = .ok ns ↔ readInputs r (some y) path = .ok ns

theorem Alike.inputs {x y : Json} (h : Alike r x y) : InputsAlike r x y := by
  obtain rfl | ⟨hx, hy, h⟩ := h
  · exact ⟨⟨fun _ => rfl, fun _ => .rfl⟩, fun _ _ => .rfl, fun _ _ => .rfl⟩
  · refine ⟨.of_isObject hx hy, h, fun path ns => ?_⟩
    have single {z : Json} (hz : z.isObject = true) (items : List Json) : z ≠ .array items := by
      rintro rfl
      cases hz
    rw [readInputs_of_single (single hx), readInputs_of_single (single hy), map_eq_ok, map_eq_ok]
    simp only [h]

theorem Alike.readItems {x y : Json} (h : Alike r x y) (before after : List Json) (index : Nat)
    (path : GraphPath) (ns : List Node) :
    readItems r (before ++ x :: after) index path = .ok ns ↔
      readItems r (before ++ y :: after) index path = .ok ns := by
  induction before generalizing index ns with
  | nil => simp only [List.nil_append, Node.readItems, bind_eq_ok, h.readAt]
  | cons item before ih => simp only [List.cons_append, Node.readItems, bind_eq_ok, ih]

theorem Alike.items {x y : Json} (h : Alike r x y) (before after : List Json) :
    InputsAlike r (.array (before ++ x :: after)) (.array (before ++ y :: after)) := by
  refine ⟨.of_item ?_ before after, fun path n => ?_, h.readItems before after 0⟩
  · obtain rfl | ⟨hx, hy, -⟩ := h
    · rfl
    · rw [hx, hy]
  · have unread (items : List Json) : Node.readAt r (.array items) path ≠ .ok n := by
      intro read
      cases isObject_of_readAt read
    exact iff_of_false (unread _) (unread _)

theorem SameBut.names {x y graph graph' : Json} (same : SameBut x y graph graph')
    (alike : InputsAlike r x y) (named : Names r graph p) : Names r graph' p := by
  refine ⟨same.process ▸ named.process, fun args hargs => ?_,
    (accepts_congr alike.indistinct same.own same.input same.input').1 named.accepted⟩
  obtain ⟨⟨members, given⟩, -⟩ := isObject_of_argsOf same.input'
  cases given.symm.trans hargs
  rfl

theorem InputsAlike.symm {x y : Json} (h : InputsAlike r x y) : InputsAlike r y x :=
  ⟨⟨fun type => (h.indistinct.types type).symm, fun text => (h.indistinct.texts text).symm⟩,
    fun path n => (h.below path n).symm, fun path ns => (h.inputs path ns).symm⟩

theorem SameBut.symm {x y graph graph' : Json} (h : SameBut x y graph graph') :
    SameBut y x graph' graph :=
  ⟨h.product.symm, h.process.symm, h.own.symm, h.input', h.input⟩

theorem SameBut.readAt {x y graph graph' : Json} (same : SameBut x y graph graph')
    (alike : InputsAlike r x y) (read : readAt r graph path = .ok n) :
    readAt r graph' path = .ok n := by
  have hobj := (isObject_of_argsOf same.input).2
  have hobj' := (isObject_of_argsOf same.input').2
  cases hp : graph.get? productKey with
  | some product =>
      rw [readAt_of_product hp] at read
      rwa [readAt_of_product (same.product ▸ hp)]
  | none =>
      rw [readAt_of_bare hobj hp] at read
      rw [readAt_of_bare hobj' (same.product ▸ hp)]
      simp only [bind_eq_ok, processOf_eq_ok] at read ⊢
      obtain ⟨p, named, read⟩ := read
      refine ⟨p, same.names alike named, ?_⟩
      cases kind : p.spec.kind with
      | filter =>
          rw [kind] at read
          have held : (argsOf graph).get? productKey = (argsOf graph').get? productKey := by
            have found := congrArg (·.get? productKey) same.own
            simpa [show productKey ≠ imageryKey by decide] using found
          dsimp only at read ⊢
          cases hown : (argsOf graph).get? productKey with
          | some product =>
              rw [readChain_eq_ok_of_product hown, same.own] at read
              exact (readChain_eq_ok_of_product (held ▸ hown)).2 read
          | none =>
              rw [readChain_eq_ok_of_imagery hown same.input, same.own] at read
              simp only [alike.below] at read
              exact (readChain_eq_ok_of_imagery (held ▸ hown) same.input').2 read
      | operation =>
          rw [kind] at read
          rw [same.input, same.own] at read
          rw [same.input']
          obtain ⟨inputs, found, read⟩ := bind_eq_ok.1 read
          exact bind_eq_ok.2 ⟨inputs, (alike.inputs _ _).1 found, read⟩

theorem sameBut_applied (f : Filter) (x y : Json) : SameBut x y (applied f x) (applied f y) where
  product := (get?_product_applied f x).trans (get?_product_applied f y).symm
  process := (get?_process_applied f x).trans (get?_process_applied f y).symm
  own := by
    refine Dict.ext_get? fun key => ?_
    rw [argsOf_applied, argsOf_applied]
    by_cases imagery : key = imageryKey <;> simp [imagery]
  input := by rw [argsOf_applied, Dict.get?_insert, if_pos rfl]
  input' := by rw [argsOf_applied, Dict.get?_insert, if_pos rfl]

/-- What is read alike makes no difference to a graph around it. -/
theorem Surrounds.alike {node node' graph graph' : Json} (h : Surrounds node node' graph graph')
    (alike : Alike r node node') : Alike r graph graph' := by
  have around {x y graph graph' : Json} (same : SameBut x y graph graph')
      (inputs : InputsAlike r x y) : Alike r graph graph' :=
    .inr ⟨(isObject_of_argsOf same.input).2, (isObject_of_argsOf same.input').2,
      fun _ _ => ⟨same.readAt inputs, same.symm.readAt inputs.symm⟩⟩
  induction h with
  | here => exact alike
  | input same inner ih => exact around same ih.inputs
  | @item _ _ _ _ before after same inner ih => exact around same (ih.items before after)

theorem Chain.alike {node node' : Json} (chain : Chain r fs last node)
    (chain' : Chain r fs' last node') (perm : fs.Perm fs') (apart : fs.Pairwise Filter.Disjoint) :
    Alike r node node' := by
  have isObject {f : Filter} {fs : List Filter} {node : Json} (chain : Chain r (f :: fs) last node) :
      node.isObject = true := by
    cases chain with
    | cons on rest => exact (isObject_of_argsOf on.input).2
  cases fs with
  | nil =>
      obtain rfl := List.nil_perm.1 perm
      cases chain
      cases chain'
      exact .inl rfl
  | cons f fs =>
      cases fs' with
      | nil => cases List.perm_nil.1 perm
      | cons f' fs' =>
          refine .inr ⟨isObject chain, isObject chain', fun path n => ?_⟩
          rw [readAt_chain chain, readAt_chain chain', perm.length_eq]
          simp only [restrictAll_perm perm apart, perm.mem_iff]

/-- A chain of filters is read as one extraction. It has the arguments that its filters set, without
their inputs, and the product at its end; each is as the filter nearest the root has it. Filters above
the end that set no argument in common can be put in any order: the graph around them is compiled to
the same tasks. -/
theorem chain_union (r : Registries) :
    (∀ node, IsSource r node → ∃ fs last productId own processId args,
      Chain r fs last node ∧ Ends r productId last own ∧
      (∀ path, readAt r node path = .ok (.extraction productId processId args)) ∧
      r.mapping.extraction.get? productId = some processId ∧
      args.get? productKey = some (.string productId) ∧ args.get? imageryKey = none ∧
      ∀ key, args.get? key = (fs.map Filter.args ++ [own]).findSome? (·.get? key)) ∧
    ∀ fs fs' last node node' graph graph', Chain r fs last node → Chain r fs' last node' →
      fs.Perm fs' → fs.Pairwise Filter.Disjoint → Surrounds node node' graph graph' →
      ∀ jobId output tasks,
        compile r graph jobId output = .ok tasks ↔ compile r graph' jobId output = .ok tasks := by
  refine ⟨fun node source => source.merged, ?_⟩
  intro fs fs' last node node' graph graph' chain chain' perm apart around jobId output tasks
  have alike := around.alike (chain.alike chain' perm apart)
  rw [compile, compile, map_eq_ok, map_eq_ok]
  simp only [read, alike.readAt]

/-- Two filters with different arguments, an operation and a product. -/
def filterRegistries : Registries where
  processes := Dict.ofList
    [("crop", ⟨⟨"crop", .filter, "", Dict.ofList [("left", .ofType .number true)]⟩, ∅⟩),
      ("select", ⟨⟨"select", .filter, "", Dict.ofList [("bands", .ofType .array true)]⟩, ∅⟩),
      ("sum", ⟨⟨"sum", .operation, "", ∅⟩, ∅⟩)]
  products := Dict.ofList [("p", ⟨"p", ""⟩)]
  mapping := ⟨Dict.ofList [("p", "extract")]⟩

def crop : Filter := ⟨"crop", Dict.ofList [("left", .ofNat 1)]⟩
def select : Filter := ⟨"select", Dict.ofList [("bands", .array [])]⟩

def leaf : Json := .mk [(productKey, .string "p")]

/-- The sum of a product and something else. -/
def sumOf (input : Json) : Json := applied ⟨"sum", ∅⟩ (.array [leaf, input])

theorem chain_union_sample :
    Chain filterRegistries [crop, select] leaf (applied crop (applied select leaf)) ∧
    Chain filterRegistries [select, crop] leaf (applied select (applied crop leaf)) ∧
    crop.Disjoint select ∧
    (∃ fs last productId own processId args,
      Chain filterRegistries fs last (applied crop (applied select leaf)) ∧
      Ends filterRegistries productId last own ∧
      readAt filterRegistries (applied crop (applied select leaf)) [] =
        .ok (.extraction productId processId args) ∧
      ∀ key, args.get? key = (fs.map Filter.args ++ [own]).findSome? (·.get? key)) ∧
    ∃ tasks, tasks.map (·.processId) = ["extract", "extract", "sum", "convert"] ∧
      compile filterRegistries (sumOf (applied crop (applied select leaf))) "j" none = .ok tasks ∧
      compile filterRegistries (sumOf (applied select (applied crop leaf))) "j" none = .ok tasks := by
  have fits : crop.Fits filterRegistries ∧ select.Fits filterRegistries :=
    ⟨⟨⟨_, rfl, rfl⟩, rfl, rfl⟩, ⟨⟨_, rfl, rfl⟩, rfl, rfl⟩⟩
  have chain : Chain filterRegistries [crop, select] leaf (applied crop (applied select leaf)) :=
    .cons (on_applied fits.1 _) (.cons (on_applied fits.2 _) (.nil leaf))
  have chain' : Chain filterRegistries [select, crop] leaf (applied select (applied crop leaf)) :=
    .cons (on_applied fits.2 _) (.cons (on_applied fits.1 _) (.nil leaf))
  have apart : crop.Disjoint select := by
    intro key
    by_cases left : key = "left" <;> simp [crop, select, Dict.ofList, left]
  have around : Surrounds (applied crop (applied select leaf)) (applied select (applied crop leaf))
      (sumOf (applied crop (applied select leaf))) (sumOf (applied select (applied crop leaf))) :=
    .item (show SameBut (.array ([leaf] ++ _ :: [])) (.array ([leaf] ++ _ :: [])) _ _ from
      sameBut_applied _ _ _) .here
  have source : IsSource filterRegistries (applied crop (applied select leaf)) := by
    have restricts : (readAt filterRegistries (applied crop (applied select leaf)) []).toOption.any
        (fun n => (restrict ∅ n).isSome) = true := by decide +kernel
    cases read : readAt filterRegistries (applied crop (applied select leaf)) [] with
    | error e => simp [read, Except.toOption] at restricts
    | ok n =>
        cases n with
        | extraction => exact isSource_of_readAt read
        | operation => simp [read, Except.toOption, restrict] at restricts
  obtain ⟨fs, last, productId, own, processId, args, hc, ends, read, -, -, -, keys⟩ :=
    (chain_union filterRegistries).1 _ source
  have compiled : (compile filterRegistries (sumOf (applied crop (applied select leaf))) "j" none).toOption.map
      (·.map (·.processId)) = some ["extract", "extract", "sum", "convert"] := by decide +kernel
  cases tasks : compile filterRegistries (sumOf (applied crop (applied select leaf))) "j" none with
  | error e =>
      rw [tasks] at compiled
      cases compiled
  | ok list =>
      rw [tasks] at compiled
      have same := (chain_union filterRegistries).2 _ _ _ _ _ _ _ chain chain' (.swap ..)
        (List.pairwise_pair.2 apart) around "j" none list
      exact ⟨chain, chain', apart, ⟨fs, last, productId, own, processId, args, hc, ends, read [], keys⟩,
        list, Option.some.inj compiled, rfl, same.1 tasks⟩

end Node
end ImageryJobs
