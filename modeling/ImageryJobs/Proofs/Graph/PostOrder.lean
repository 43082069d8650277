import ImageryJobs.Proofs.Engine.Planning
import ImageryJobs.Proofs.Graph.Language
import ImageryJobs.Proofs.Members
import Mathlib.Data.List.Nodup
import Mathlib.Data.List.Range
import Mathlib.Tactic.Common

namespace ImageryJobs
namespace Node

/-- The way from the root of a tree to a node of it, by the indices of inputs. -/
abbrev Place := List Nat

mutual

/-- The nodes of a tree in post-order, with their places: those below each input, then the root. -/
def walk : Node → List (Place × Node)
  | .extraction productId processId args => [([], .extraction productId processId args)]
  | .operation processId args inputs =>
      walkFrom 0 inputs ++ [([], .operation processId args inputs)]

def walkFrom (first : Nat) : List Node → List (Place × Node)
  | [] => []
  | n :: ns => (walk n).map (fun x => (first :: x.1, x.2)) ++ walkFrom (first + 1) ns

end

mutual

theorem length_walk (n : Node) : (walk n).length = n.count := by
  cases n with
  | extraction productId processId args => rfl
  | operation processId args inputs =>
      rw [walk, count, List.length_append, length_walkFrom 0 inputs]
      rfl

theorem length_walkFrom (first : Nat) (ns : List Node) :
    (walkFrom first ns).length = countAll ns := by
  cases ns with
  | nil => rfl
  | cons n ns =>
      rw [walkFrom, countAll, List.length_append, List.length_map, length_walk n,
        length_walkFrom (first + 1) ns]

end

mutual

theorem length_tasks (n : Node) (start : Nat) : (n.tasks start).length = n.count := by
  cases n with
  | extraction productId processId args => rfl
  | operation processId args inputs =>
      rw [tasks, count, List.length_append, length_tasksAll inputs start]
      rfl

theorem length_tasksAll (ns : List Node) (start : Nat) :
    (tasksAll start ns).length = countAll ns := by
  cases ns with
  | nil => rfl
  | cons n ns =>
      rw [tasksAll, countAll, List.length_append, length_tasks n start,
        length_tasksAll ns (start + count n)]

end

theorem count_pos (n : Node) : 0 < n.count := by
  cases n with
  | extraction productId processId args => exact Nat.one_pos
  | operation processId args inputs => exact Nat.succ_pos _

/-- A task does the work of a node at a place of a walk. Its number is that of the place, counted
from `start`, and it reads the tasks of the node's inputs, which come before it. -/
structure Performs (w : List (Place × Node)) (start i : Nat) (place : Place) (node : Node)
    (t : TaskSpec) : Prop where
  number : t.seqNum = start + i
  process : t.processId = node.processId
  args : t.args = node.args
  arity : t.dependsOn.length = node.inputs.length
  reads : ∀ k d, t.dependsOn[k]? = some d → ∃ j input, d = start + j ∧ j < i ∧
    node.inputs[k]? = some input ∧ w[j]? = some (place ++ [k], input)

def PerformedBy (w : List (Place × Node)) (start : Nat) (specs : List TaskSpec) : Prop :=
  ∀ i place node, w[i]? = some (place, node) →
    ∃ t, specs[i]? = some t ∧ Performs w start i place node t

variable {w w' : List (Place × Node)} {start i : Nat} {place : Place} {node : Node}
  {specs specs' : List TaskSpec} {t : TaskSpec}

theorem Performs.append (h : Performs w start i place node t) :
    Performs (w ++ w') start i place node t where
  number := h.number
  process := h.process
  args := h.args
  arity := h.arity
  reads k d hd := by
    obtain ⟨j, input, hj, hlt, hinput, hw⟩ := h.reads k d hd
    refine ⟨j, input, hj, hlt, hinput, ?_⟩
    rw [List.getElem?_append_left (List.getElem?_eq_some_iff.1 hw).1, hw]

theorem Performs.append_left (h : Performs w' (start + w.length) i place node t) :
    Performs (w ++ w') start (w.length + i) place node t where
  number := by rw [h.number, Nat.add_assoc]
  process := h.process
  args := h.args
  arity := h.arity
  reads k d hd := by
    obtain ⟨j, input, hj, hlt, hinput, hw⟩ := h.reads k d hd
    refine ⟨w.length + j, input, by rw [hj, Nat.add_assoc], by omega, hinput, ?_⟩
    rw [List.getElem?_append_right (Nat.le_add_right ..), Nat.add_sub_cancel_left, hw]

theorem Performs.below (first : Nat) (h : Performs w start i place node t) :
    Performs (w.map fun x => (first :: x.1, x.2)) start i (first :: place) node t where
  number := h.number
  process := h.process
  args := h.args
  arity := h.arity
  reads k d hd := by
    obtain ⟨j, input, hj, hlt, hinput, hw⟩ := h.reads k d hd
    refine ⟨j, input, hj, hlt, hinput, ?_⟩
    rw [List.getElem?_map, hw]
    rfl

theorem PerformedBy.append (hlen : specs.length = w.length) (h : PerformedBy w start specs)
    (h' : PerformedBy w' (start + w.length) specs') :
    PerformedBy (w ++ w') start (specs ++ specs') := by
  intro i place node hi
  by_cases hlt : i < w.length
  · rw [List.getElem?_append_left hlt] at hi
    obtain ⟨t, ht, performs⟩ := h i place node hi
    exact ⟨t, by rw [List.getElem?_append_left (hlen ▸ hlt), ht], performs.append⟩
  · obtain ⟨j, rfl⟩ := Nat.exists_eq_add_of_le (Nat.not_lt.1 hlt)
    rw [List.getElem?_append_right (Nat.le_add_right ..), Nat.add_sub_cancel_left] at hi
    obtain ⟨t, ht, performs⟩ := h' j place node hi
    refine ⟨t, ?_, performs.append_left⟩
    rw [List.getElem?_append_right (hlen ▸ Nat.le_add_right ..), hlen, Nat.add_sub_cancel_left, ht]

theorem PerformedBy.concat (hlen : specs.length = w.length) (h : PerformedBy w start specs)
    (ht : Performs w start w.length place node t) :
    PerformedBy (w ++ [(place, node)]) start (specs ++ [t]) := by
  intro i place' node' hi
  by_cases hlt : i < w.length
  · rw [List.getElem?_append_left hlt] at hi
    obtain ⟨t', ht', performs⟩ := h i place' node' hi
    exact ⟨t', by rw [List.getElem?_append_left (hlen ▸ hlt), ht'], performs.append⟩
  · have hi' := (List.getElem?_eq_some_iff.1 hi).1
    have hlast : i = w.length := by
      rw [List.length_append, List.length_singleton] at hi'
      omega
    subst hlast
    rw [List.getElem?_concat_length] at hi
    cases hi
    exact ⟨t, by rw [← hlen, List.getElem?_concat_length], ht.append⟩

theorem PerformedBy.below (first : Nat) (h : PerformedBy w start specs) :
    PerformedBy (w.map fun x => (first :: x.1, x.2)) start specs := by
  intro i place node hi
  rw [List.getElem?_map] at hi
  obtain ⟨⟨rest, n⟩, hw, heq⟩ := Option.map_eq_some_iff.1 hi
  cases heq
  obtain ⟨t, ht, performs⟩ := h i rest _ hw
  exact ⟨t, ht, performs.below first⟩

theorem walk_eq (n : Node) : walk n = walkFrom 0 n.inputs ++ [([], n)] := by
  cases n with
  | extraction productId processId args => rfl
  | operation processId args inputs => rfl

/-- The root of a tree is its last node. -/
theorem walk_root (n : Node) : (walk n)[n.count - 1]? = some ([], n) := by
  have hlen : (walkFrom 0 n.inputs).length = n.count - 1 := by
    rw [← length_walk n, walk_eq]
    simp
  rw [walk_eq, List.getElem?_append_right (Nat.le_of_eq hlen), hlen, Nat.sub_self]
  rfl

theorem length_rootsOf (start : Nat) (ns : List Node) : (rootsOf start ns).length = ns.length := by
  induction ns generalizing start with
  | nil => rfl
  | cons n ns ih => rw [rootsOf, List.length_cons, List.length_cons, ih]

/-- The inputs of a node end at the roots that are given for them. -/
theorem rootsOf_spec {ns : List Node} {start k d : Nat} (first : Nat)
    (h : (rootsOf start ns)[k]? = some d) :
    ∃ j input, d = start + j ∧ ns[k]? = some input ∧
      (walkFrom first ns)[j]? = some ([first + k], input) := by
  induction ns generalizing start first k with
  | nil => simp [rootsOf] at h
  | cons n ns ih =>
      have hpos := n.count_pos
      cases k with
      | zero =>
          rw [rootsOf] at h
          cases h
          refine ⟨n.count - 1, n, by omega, rfl, ?_⟩
          rw [walkFrom, List.getElem?_append_left (by rw [List.length_map, length_walk]; omega),
            List.getElem?_map, walk_root]
          rfl
      | succ k =>
          rw [rootsOf, List.getElem?_cons_succ] at h
          obtain ⟨j, input, rfl, hinput, hw⟩ := ih (first + 1) h
          refine ⟨n.count + j, input, by omega, hinput, ?_⟩
          rw [walkFrom, List.getElem?_append_right (by rw [List.length_map, length_walk]; omega),
            List.length_map, length_walk, Nat.add_sub_cancel_left, hw]
          congr 3
          omega

mutual

theorem performedBy_tasks (n : Node) (start : Nat) :
    PerformedBy (walk n) start (n.tasks start) := by
  cases n with
  | extraction productId processId args =>
      intro i place node hi
      have hzero : i = 0 := by
        have := (List.getElem?_eq_some_iff.1 hi).1
        simpa [walk] using this
      subst hzero
      cases hi
      exact ⟨_, rfl, ⟨rfl, rfl, rfl, rfl, by simp⟩⟩
  | operation processId args inputs =>
      have hlen : (tasksAll start inputs).length = (walkFrom 0 inputs).length := by
        rw [length_tasksAll, length_walkFrom]
      refine (performedBy_tasksAll inputs start 0).concat hlen ⟨?_, rfl, rfl, ?_, ?_⟩
      · rw [length_walkFrom]
      · exact length_rootsOf start inputs
      · intro k d hd
        obtain ⟨j, input, rfl, hinput, hw⟩ := rootsOf_spec 0 hd
        rw [Nat.zero_add] at hw
        exact ⟨j, input, rfl, (List.getElem?_eq_some_iff.1 hw).1, hinput, hw⟩

theorem performedBy_tasksAll (ns : List Node) (start first : Nat) :
    PerformedBy (walkFrom first ns) start (tasksAll start ns) := by
  cases ns with
  | nil => simp [PerformedBy, walkFrom]
  | cons n ns =>
      have hlen : (n.tasks start).length = ((walk n).map fun x => (first :: x.1, x.2)).length := by
        rw [length_tasks, List.length_map, length_walk]
      refine ((performedBy_tasks n start).below first).append hlen ?_
      rw [List.length_map, length_walk]
      exact performedBy_tasksAll ns (start + count n) (first + 1)

end

/-! ### Places -/

/-- The node at a place of a tree. -/
def nodeAt : Place → Node → Option Node
  | [], n => some n
  | k :: place, n => n.inputs[k]?.bind (nodeAt place)

mutual

theorem mem_walk (n : Node) {place : Place} {node : Node} :
    (place, node) ∈ walk n ↔ nodeAt place n = some node := by
  cases n with
  | extraction productId processId args =>
      cases place with
      | nil => simp [walk, nodeAt, eq_comm]
      | cons k place => simp [walk, nodeAt, inputs]
  | operation processId args inputs =>
      rw [walk, List.mem_append, mem_walkFrom inputs 0]
      cases place with
      | nil => simp [nodeAt, eq_comm]
      | cons k place => simp [nodeAt, Node.inputs, Option.bind_eq_some_iff]

theorem mem_walkFrom (ns : List Node) (first : Nat) {place : Place} {node : Node} :
    (place, node) ∈ walkFrom first ns ↔ ∃ k rest input, place = (first + k) :: rest ∧
      ns[k]? = some input ∧ nodeAt rest input = some node := by
  cases ns with
  | nil => simp [walkFrom]
  | cons n ns =>
      have here : (place, node) ∈ (walk n).map (fun x => (first :: x.1, x.2)) ↔
          ∃ rest, place = first :: rest ∧ nodeAt rest n = some node := by
        rw [List.mem_map]
        constructor
        · rintro ⟨⟨rest, m⟩, hm, heq⟩
          cases heq
          exact ⟨rest, rfl, (mem_walk n).1 hm⟩
        · rintro ⟨rest, rfl, hrest⟩
          exact ⟨(rest, node), (mem_walk n).2 hrest, rfl⟩
      rw [walkFrom, List.mem_append, here, mem_walkFrom ns (first + 1)]
      constructor
      · rintro (⟨rest, rfl, hrest⟩ | ⟨k, rest, input, rfl, hinput, hrest⟩)
        · exact ⟨0, rest, n, rfl, rfl, hrest⟩
        · exact ⟨k + 1, rest, input, by rw [Nat.add_assoc, Nat.add_comm 1 k], hinput, hrest⟩
      · rintro ⟨k, rest, input, rfl, hinput, hrest⟩
        cases k with
        | zero =>
            cases hinput
            exact .inl ⟨rest, rfl, hrest⟩
        | succ k =>
            exact .inr ⟨k, rest, input, by rw [Nat.add_assoc, Nat.add_comm 1 k], hinput, hrest⟩

end

mutual

theorem nodup_walk (n : Node) : ((walk n).map Prod.fst).Nodup := by
  cases n with
  | extraction productId processId args => simp [walk]
  | operation processId args inputs =>
      rw [walk, List.map_append, List.nodup_append]
      refine ⟨nodup_walkFrom inputs 0, by simp, ?_⟩
      intro place hplace root hroot heq
      obtain ⟨⟨place, node⟩, hmem, rfl⟩ := List.mem_map.1 hplace
      obtain ⟨k, rest, -, hcons, -⟩ := (mem_walkFrom inputs 0).1 hmem
      simp at hroot
      simp [hroot, hcons] at heq

theorem nodup_walkFrom (ns : List Node) (first : Nat) :
    ((walkFrom first ns).map Prod.fst).Nodup := by
  cases ns with
  | nil => simp [walkFrom]
  | cons n ns =>
      rw [walkFrom, List.map_append, List.nodup_append, List.map_map]
      refine ⟨?_, nodup_walkFrom ns (first + 1), ?_⟩
      · have hcons := (nodup_walk n).map (List.cons_injective (a := first))
        rwa [List.map_map] at hcons
      · intro place hplace other hother heq
        obtain ⟨⟨rest, m⟩, -, rfl⟩ := List.mem_map.1 hplace
        obtain ⟨⟨place', m'⟩, hmem, rfl⟩ := List.mem_map.1 hother
        obtain ⟨k, rest', -, hcons, -⟩ := (mem_walkFrom ns (first + 1)).1 hmem
        simp [hcons] at heq
        omega

end

/-! ### Reading once -/

mutual

/-- The tasks of a tree read each other's output once, but for that of the root. -/
theorem reads_tasks (n : Node) (start : Nat) :
    ((n.tasks start).flatMap (·.dependsOn)).Perm (List.range' start (n.count - 1)) := by
  cases n with
  | extraction productId processId args => exact .refl _
  | operation processId args inputs =>
      rw [tasks, List.flatMap_append, List.flatMap_singleton]
      exact reads_tasksAll inputs start

theorem reads_tasksAll (ns : List Node) (start : Nat) :
    ((tasksAll start ns).flatMap (·.dependsOn) ++ rootsOf start ns).Perm
      (List.range' start (countAll ns)) := by
  cases ns with
  | nil => exact .refl _
  | cons n ns =>
      have hpos := n.count_pos
      have first : ((n.tasks start).flatMap (·.dependsOn) ++ [start + n.count - 1]).Perm
          (List.range' start n.count) := by
        have hrange : List.range' start n.count =
            List.range' start (n.count - 1) ++ [start + n.count - 1] := by
          obtain ⟨m, hm⟩ := Nat.exists_eq_succ_of_ne_zero hpos.ne'
          rw [hm, List.range'_1_concat]
          rfl
        rw [hrange]
        exact (reads_tasks n start).append_right _
      rw [tasksAll, rootsOf, countAll, List.flatMap_append, ← List.range'_append_1]
      refine .trans ?_ (first.append (reads_tasksAll ns (start + n.count)))
      rw [List.append_assoc, List.append_assoc, List.perm_append_left_iff, List.singleton_append]
      exact List.perm_middle

end

/-- Every task of a job but the last is read once. -/
theorem reads_taskList (root : Node) (jobId : String) (output : Option Json) :
    ((root.taskList jobId output).flatMap (·.dependsOn)).Perm (List.range root.count) := by
  have hlast : [root.convertTask jobId output].flatMap (·.dependsOn) = [root.count - 1] := rfl
  have hrange : List.range root.count = List.range (root.count - 1) ++ [root.count - 1] := by
    obtain ⟨m, hm⟩ := Nat.exists_eq_succ_of_ne_zero root.count_pos.ne'
    rw [hm, List.range_succ]
    rfl
  rw [taskList, List.flatMap_append, hlast, hrange, List.range_eq_range']
  exact (reads_tasks root 0).append_right _

/-! ### Arguments -/

/-- No node of the tree keeps its inputs among its arguments. -/
def Bare (n : Node) : Prop := ∀ x ∈ walk n, x.2.args.get? imageryKey = none

theorem bare_extraction {productId processId : String} {args : Members}
    (h : args.get? imageryKey = none) : Bare (.extraction productId processId args) := by
  intro x hx
  cases List.mem_singleton.1 hx
  exact h

theorem bare_operation {processId : String} {args : Members} {inputs : List Node}
    (h : args.get? imageryKey = none) (hinputs : ∀ input ∈ inputs, Bare input) :
    Bare (.operation processId args inputs) := by
  intro x hx
  obtain ⟨place, node⟩ := x
  have hat := (mem_walk _).1 hx
  cases place with
  | nil =>
      cases hat
      exact h
  | cons k place =>
      obtain ⟨input, hinput, hat⟩ := Option.bind_eq_some_iff.1 hat
      exact hinputs input (List.mem_of_getElem? hinput) (place, node) ((mem_walk input).2 hat)

variable {r : Registries} {graph : Json} {path : GraphPath}

theorem bare_extractionOf {id : String} {args : Members} {n : Node}
    (h : extractionOf r id args path = .ok n) (hargs : args.get? imageryKey = none) : Bare n := by
  rw [extractionOf] at h
  split at h
  · split at h
    · cases h
      exact bare_extraction hargs
    · cases h
  · cases h

theorem bare_readChain {p : Process} {merged : Members} {n : Node}
    (h : readChain r graph p merged path = .ok n) (hm : merged.get? imageryKey = none) :
    Bare n := by
  have hunion : (merged.union ((argsOf graph).erase imageryKey)).get? imageryKey = none := by
    simp [hm]
  fun_induction readChain r graph p merged path with
  | case1 graph p merged path merged' product hp =>
      obtain ⟨id, -, h⟩ := bind_eq_ok.1 h
      exact bare_extractionOf h hunion
  | case2 => cases h
  | case3 graph p merged path merged' hp next hi path' hobj product hproduct =>
      obtain ⟨id, -, h⟩ := bind_eq_ok.1 h
      refine bare_extractionOf h ?_
      rw [Dict.get?_insertNew, hunion]
      rfl
  | case4 graph p merged path merged' hp next hi path' hobj hproduct ih =>
      obtain ⟨q, -, h⟩ := bind_eq_ok.1 h
      split at h
      · exact ih q h hunion (by simpa [merged'] using hunion)
      · cases h
  | case5 => cases h

theorem bare_readAt {n : Node} (h : readAt r graph path = .ok n) : Bare n := by
  refine readAt.induct (fun graph path => ∀ n, readAt r graph path = .ok n → Bare n)
    (fun items index path => ∀ ns, readItems r items index path = .ok ns → ∀ n ∈ ns, Bare n)
    ?product ?bare ?other ?nil ?cons graph path n h
  case product =>
    intro node path hobj product hp n h
    rw [readAt_of_product hp] at h
    obtain ⟨id, -, h⟩ := bind_eq_ok.1 h
    exact bare_extractionOf h (by simp [Dict.ofList, productKey, imageryKey])
  case bare =>
    intro node path hobj bare ihItems ihInput n h
    rw [readAt_of_bare hobj bare] at h
    obtain ⟨p, -, h⟩ := bind_eq_ok.1 h
    split at h
    · exact bare_readChain h rfl
    · obtain ⟨inputs, hinputs, h⟩ := bind_eq_ok.1 h
      split at h
      · cases h
      · cases h
        refine bare_operation (by simp) ?_
        unfold readInputs at hinputs
        split at hinputs
        · rename_i items himagery
          exact ihItems items himagery inputs hinputs
        · rename_i input _ himagery
          obtain ⟨m, hm, rfl⟩ := map_eq_ok.1 hinputs
          simpa using ihInput input himagery m hm
        · cases hinputs
          simp
  case other =>
    intro node path hobj n h
    rw [readAt, if_neg hobj] at h
    cases h
  case nil =>
    intro index path ns h
    rw [readItems] at h
    cases h
    simp
  case cons =>
    intro index path item rest ihItem ihRest ns h
    rw [readItems] at h
    obtain ⟨m, hm, h⟩ := bind_eq_ok.1 h
    obtain ⟨ms, hms, h⟩ := bind_eq_ok.1 h
    cases h
    rw [List.forall_mem_cons]
    exact ⟨ihItem m hm, ihRest ms hms⟩

theorem convertTask_bare (root : Node) (jobId : String) (output : Option Json) :
    (root.convertTask jobId output).args.get? imageryKey = none := by
  rw [convertTask]
  cases output.filter fun o => !o.isNull with
  | none => simp [Dict.ofList, Json.memberIf, imageryKey]
  | some o => simp [Dict.ofList, Json.memberIf, imageryKey]

/-! ### Plans -/

theorem PerformedBy.get (hlen : specs.length = w.length) (h : PerformedBy w start specs)
    (ht : specs[i]? = some t) :
    ∃ place node, w[i]? = some (place, node) ∧ Performs w start i place node t := by
  have hi : i < w.length := hlen ▸ (List.getElem?_eq_some_iff.1 ht).1
  obtain ⟨t', ht', performs⟩ := h i w[i].1 w[i].2 (List.getElem?_eq_getElem hi)
  cases ht.symm.trans ht'
  exact ⟨w[i].1, w[i].2, List.getElem?_eq_getElem hi, performs⟩

theorem PerformedBy.numbers (hlen : specs.length = w.length) (h : PerformedBy w start specs) :
    specs.map (·.seqNum) = List.range' start w.length := by
  apply List.ext_getElem?
  intro i
  rw [List.getElem?_map]
  by_cases hi : i < specs.length
  · obtain ⟨place, node, -, performs⟩ := h.get hlen (List.getElem?_eq_getElem hi)
    rw [List.getElem?_eq_getElem hi, List.getElem?_range' (hlen ▸ hi), Nat.one_mul,
      Option.map_some, performs.number]
  · rw [List.getElem?_eq_none (Nat.not_lt.1 hi),
      List.getElem?_eq_none (by rw [List.length_range', ← hlen]; exact Nat.not_lt.1 hi)]
    rfl

theorem PerformedBy.before (hlen : specs.length = w.length) (h : PerformedBy w start specs) :
    ∀ t ∈ specs, ∀ d ∈ t.dependsOn, d < t.seqNum := by
  intro t ht d hd
  obtain ⟨i, hi⟩ := List.mem_iff_getElem?.1 ht
  obtain ⟨k, hk⟩ := List.mem_iff_getElem?.1 hd
  obtain ⟨place, node, -, performs⟩ := h.get hlen hi
  obtain ⟨j, input, rfl, hlt, -⟩ := performs.reads k d hk
  rw [performs.number]
  omega

theorem length_tasks_eq (root : Node) : (root.tasks 0).length = (walk root).length := by
  rw [length_tasks, length_walk]

theorem numbers_taskList (root : Node) (jobId : String) (output : Option Json) :
    (root.taskList jobId output).map (·.seqNum) = List.range (root.count + 1) := by
  rw [taskList, List.map_append, (performedBy_tasks root 0).numbers (length_tasks_eq root),
    length_walk, List.range_succ, List.range_eq_range']
  rfl

theorem before_taskList (root : Node) (jobId : String) (output : Option Json) :
    ∀ t ∈ root.taskList jobId output, ∀ d ∈ t.dependsOn, d < t.seqNum := by
  have hpos := root.count_pos
  intro t ht d hd
  obtain ht | ht := List.mem_append.1 ht
  · exact (performedBy_tasks root 0).before (length_tasks_eq root) t ht d hd
  · cases List.mem_singleton.1 ht
    cases List.mem_singleton.1 hd
    exact Nat.sub_one_lt_of_lt hpos

/-- The outputs of a job's tasks can be handed over, each to the task that reads it. -/
theorem plan_taskList {ρ : Type} (root : Node) (jobId : String) (output : Option Json) :
    ∃ a : Arena ρ,
      Arena.plan ((root.taskList jobId output).map fun t => (t.seqNum, t.dependsOn)) = .ok a ∧
      ∀ p c, a.consumerOf p = some c ↔
        ∃ t ∈ root.taskList jobId output, t.seqNum = c ∧ p ∈ t.dependsOn := by
  have hreads := reads_taskList root jobId output
  have hnumbers : ((root.taskList jobId output).map fun t => (t.seqNum, t.dependsOn)).map Prod.fst =
      List.range (root.count + 1) := by
    rw [List.map_map]
    exact numbers_taskList root jobId output
  have honce : (((root.taskList jobId output).map fun t => (t.seqNum, t.dependsOn)).flatMap
      (·.2)).Nodup := by
    rw [List.flatMap_map]
    exact hreads.nodup_iff.2 List.nodup_range
  obtain ⟨a, ha, hconsumer⟩ := Arena.plan_of_readable (ρ := ρ) (hnumbers ▸ List.nodup_range) honce
    fun x hx p hp => by
      obtain ⟨t, ht, rfl⟩ := List.mem_map.1 hx
      have hlt := List.mem_range.1 (hreads.mem_iff.1 (List.mem_flatMap.2 ⟨t, ht, hp⟩))
      rw [hnumbers, List.mem_range]
      exact ⟨before_taskList root jobId output t ht p hp, Nat.lt_succ_of_lt hlt⟩
  refine ⟨a, ha, fun p c => ?_⟩
  rw [hconsumer]
  simp

theorem bare_taskList {root : Node} (h : Bare root) (jobId : String) (output : Option Json) :
    ∀ t ∈ root.taskList jobId output, t.args.get? imageryKey = none := by
  intro t ht
  obtain ht | ht := List.mem_append.1 ht
  · obtain ⟨i, hi⟩ := List.mem_iff_getElem?.1 ht
    obtain ⟨place, node, hw, performs⟩ :=
      (performedBy_tasks root 0).get (length_tasks_eq root) hi
    rw [performs.args]
    exact h _ (List.mem_of_getElem? hw)
  · cases List.mem_singleton.1 ht
    exact convertTask_bare root jobId output

theorem tasks_of_extraction {root : Node} {productId processId : String} {args : Members}
    (h : (walk root)[i]? = some (place, extraction productId processId args)) :
    (root.tasks 0)[i]? = some ⟨i, processId, args, []⟩ := by
  obtain ⟨⟨number, process, given, reads⟩, ht, performs⟩ := performedBy_tasks root 0 i place _ h
  obtain rfl : number = i := performs.number.trans (Nat.zero_add i)
  obtain rfl : process = processId := performs.process
  obtain rfl : given = args := performs.args
  obtain rfl : reads = [] := List.eq_nil_of_length_eq_zero performs.arity
  exact ht

/-- The tasks of a graph are its nodes in post-order and a conversion of the root, numbered from 0.
Each reads its inputs, which stand before it. Every output but the last is read once, so that it can
be handed over. Only the conversion depends on the job and its output specification. -/
theorem compile_plans {ρ : Type} {jobId : String} {output : Option Json} {tasks : List TaskSpec}
    (h : compile r graph jobId output = .ok tasks) :
    ∃ (root : Node) (specs : List TaskSpec), read r graph = .ok root ∧
      tasks = specs ++ [root.convertTask jobId output] ∧
      tasks.map (·.seqNum) = List.range (root.count + 1) ∧
      (walk root).length = root.count ∧ ((walk root).map Prod.fst).Nodup ∧
      (∀ place node, (place, node) ∈ walk root ↔ nodeAt place root = some node) ∧
      PerformedBy (walk root) 0 specs ∧
      (∀ i place productId processId args,
        (walk root)[i]? = some (place, extraction productId processId args) →
          specs[i]? = some (TaskSpec.mk i processId args [])) ∧
      (root.convertTask jobId output).dependsOn = [root.count - 1] ∧
      (walk root)[root.count - 1]? = some ([], root) ∧
      (tasks.flatMap (·.dependsOn)).Perm (List.range root.count) ∧
      (∀ t ∈ tasks, t.args.get? imageryKey = none) ∧
      (∃ a : Arena ρ, Arena.plan (tasks.map fun t => (t.seqNum, t.dependsOn)) = .ok a ∧
        ∀ p c, a.consumerOf p = some c ↔ ∃ t ∈ tasks, t.seqNum = c ∧ p ∈ t.dependsOn) ∧
      ∀ jobId' output', compile r graph jobId' output' =
        .ok (specs ++ [root.convertTask jobId' output']) := by
  obtain ⟨root, hroot, rfl⟩ := map_eq_ok.1 h
  refine ⟨root, root.tasks 0, hroot, rfl, numbers_taskList root jobId output, length_walk root,
    nodup_walk root, fun place node => mem_walk root, performedBy_tasks root 0,
    fun i place productId processId args => tasks_of_extraction, rfl, walk_root root,
    reads_taskList root jobId output, bare_taskList (bare_readAt hroot) jobId output,
    plan_taskList root jobId output, fun jobId' output' => ?_⟩
  rw [compile, hroot]
  rfl

/-- A process that takes anything, and a product. -/
def sampleRegistries : Registries where
  processes := Dict.ofList [("sum", ⟨⟨"sum", .operation, "", ∅⟩, ∅⟩)]
  products := Dict.ofList [("p", ⟨"p", ""⟩)]
  mapping := ⟨Dict.ofList [("p", "extract")]⟩

def sampleGraph : Json :=
  .object [("process_id", .string "sum"), ("args", .object [("imagery", .array
    [.object [("product_id", .string "p")], .object [("product_id", .string "p")]])])]

theorem compile_plans_sample :
    ∃ tasks root specs, compile sampleRegistries sampleGraph "j" none = .ok tasks ∧
      tasks.map (·.dependsOn) = [[], [], [0, 1], [2]] ∧ read sampleRegistries sampleGraph = .ok root ∧
      tasks = specs ++ [root.convertTask "j" none] ∧ PerformedBy (walk root) 0 specs := by
  have reads : (compile sampleRegistries sampleGraph "j" none).toOption.map
      (·.map (·.dependsOn)) = some [[], [], [0, 1], [2]] := by decide +kernel
  cases compiled : compile sampleRegistries sampleGraph "j" none with
  | error e =>
      rw [compiled] at reads
      cases reads
  | ok tasks =>
      rw [compiled] at reads
      obtain ⟨root, specs, hroot, htasks, -, -, -, -, performed, -⟩ :=
        compile_plans (ρ := Unit) compiled
      exact ⟨tasks, root, specs, rfl, Option.some.inj reads, hroot, htasks, performed⟩

end Node
end ImageryJobs
