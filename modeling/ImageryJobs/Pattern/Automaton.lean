import Std.Data.HashMap
import ImageryJobs.Pattern.Basic
import ImageryJobs.Unicode.OctetRange

/-!
How large the automata are that look for a pattern in the octets of a text. One reads forward and
knows where groups begin and end; the other reads backward and does not. A pattern is refused if
either would be larger than `sizeLimit`, so what matters is how many states each has and how many
edges leave them. Both write out every round of a bounded repetition. In the part for one set of
characters states are shared, as far as tables of a fixed number of slots remember them.
-/

namespace ImageryJobs.Pattern

/-- The states built so far and the octets that they and their edges take. -/
structure Tally where
  states : Nat
  octets : Nat

def sizeLimit : Nat := 10 * 1024 * 1024

/-- The octets for a state, for an edge on a range of octets, and for a branch of a fork. -/
def stateSize : Nat := 32
def edgeSize : Nat := 8
def branchSize : Nat := 4

namespace Tally

def grow? (t : Tally) (states octets : Nat) : Option Tally :=
  let octets := t.octets + states * stateSize + octets
  if sizeLimit < octets then none else some ⟨t.states + states, octets⟩

end Tally

/-- A part of an automaton to be built, which fails if the automaton becomes too large. Its answer
is whether the part ends in a fork, on which what follows puts one more branch. -/
abbrev Build := Tally → Option (Bool × Tally)

/-- The tables in which states of the part for a set are sought again. -/
abbrev Slots (κ : Type) := Std.HashMap Nat (κ × Nat)

def hashStart : UInt64 := 14695981039346656037

def hashStep (h : UInt64) (n : Nat) : UInt64 := (h ^^^ n.toUInt64) * 1099511628211

/-- An edge on a range of octets to a state. -/
structure Edge where
  low : Nat
  high : Nat
  goal : Nat
deriving DecidableEq

/-- The slot for a state with some edges. -/
def forwardSlot (edges : List Edge) : Nat :=
  let h := edges.foldl (fun h e => hashStep (hashStep (hashStep h e.low) e.high) e.goal) hashStart
  h.toNat % 10000

/-- The slot for a state with one edge. -/
def backwardSlot (e : Edge) : Nat :=
  (hashStep (hashStep (hashStep hashStart e.goal) e.low) e.high).toNat % 1000

/-- A state that is not finished: its edges, last first, and the range of the edge whose goal is
still to be built. -/
structure Frame where
  edges : List Edge
  pending : Option (Nat × Nat)

def Frame.settle (f : Frame) (goal : Nat) : Frame :=
  match f.pending with
  | some (low, high) => ⟨⟨low, high, goal⟩ :: f.edges, none⟩
  | none => f

/-- The forward part for a set while its sequences are added in ascending order: the states that
are not finished, deepest first. -/
structure Chart where
  tally : Tally
  slots : Slots (List Edge)
  frames : List Frame

/-- The state with the given edges, shared if its slot still remembers it. -/
def Chart.state? (c : Chart) (edges : List Edge) : Option (Nat × Chart) :=
  let slot := forwardSlot edges
  let shared := (c.slots[slot]?).bind fun (found, state) =>
    if found = edges then some state else none
  match shared with
  | some state => some (state, c)
  | none => do
      let tally ← c.tally.grow? 1 (edges.length * edgeSize)
      let state := c.tally.states
      return (state, { c with tally, slots := c.slots.insert slot (edges, state) })

/-- Finishes all states but the first `keep + 1`, and the edge of the last of these. -/
def Chart.finish? (keep : Nat) : Nat → List Frame → Chart → Option Chart
  | _, [], c => some { c with frames := [] }
  | goal, f :: below, c =>
      let f := f.settle goal
      if below.length ≤ keep then some { c with frames := f :: below }
      else do
        let (state, c) ← c.state? f.edges.reverse
        finish? keep state below c

/-- How many ranges a sequence shares with the unfinished edges, first state first. -/
def sharedLength : List (Nat × Nat) → List Frame → Nat
  | r :: rest, f :: frames => if f.pending = some r then sharedLength rest frames + 1 else 0
  | _, _ => 0

def Chart.add? (final : Nat) (c : Chart) (sequence : List (Nat × Nat)) : Option Chart := do
  let keep := sharedLength sequence c.frames.reverse
  let c ← c.finish? keep final c.frames
  match c.frames, sequence.drop keep with
  | f :: below, r :: rest =>
      let deeper := rest.map fun r => ⟨[], some r⟩
      return { c with frames := deeper.reverse ++ { f with pending := some r } :: below }
  | _, _ => return c

/-- The forward part for a set that holds more than ASCII. -/
def forwardSet (s : CharSet) : Build := fun t => do
  let final := t.states
  let tally ← t.grow? 1 0
  let c ← s.octetRanges.foldlM (Chart.add? final) ⟨tally, ∅, [⟨[], none⟩]⟩
  let c ← c.finish? 0 final c.frames
  let (_, c) ← c.state? (c.frames.flatMap (·.edges.reverse))
  return (false, c.tally)

/-- Adds one sequence to the backward part for a set. -/
def backwardSequence (final : Nat) (work : Tally × Slots Edge) (sequence : List (Nat × Nat)) :
    Option (Tally × Slots Edge) := do
  let (t, slots, _) ← sequence.foldlM (fun (work : Tally × Slots Edge × Nat) r => do
    let (t, slots, goal) := work
    let edge : Edge := ⟨r.1, r.2, goal⟩
    let slot := backwardSlot edge
    let shared := (slots[slot]?).bind fun (found, state) =>
      if found = edge then some state else none
    match shared with
    | some state => return (t, slots, state)
    | none => return (← t.grow? 1 0, slots.insert slot (edge, t.states), t.states))
    (work.1, work.2, final)
  return (← t.grow? 0 branchSize, slots)

/-- The backward part for a set that holds more than ASCII. -/
def backwardSet (s : CharSet) : Build := fun t => do
  let final := t.states + 1
  let t ← t.grow? 2 0
  let (t, _) ← s.octetRanges.foldlM (backwardSequence final) (t, ∅)
  return (false, t)

/-- Whether the automaton reads forward. -/
inductive Direction where
  | forward | backward
deriving DecidableEq

namespace Build

/-- Some states in a row. -/
def states (count : Nat) : Build := fun t => do return (false, ← t.grow? count 0)

/-- Branches of forks: `count` and one more for each part before that ends in a fork. -/
def branches (count : Nat) (forks : List Bool) : Build := fun t => do
  return (false, ← t.grow? 0 ((count + forks.count true) * branchSize))

def ofSet (direction : Direction) (s : CharSet) : Build :=
  if s.isAscii then fun t => do
    return (false, ← t.grow? 2 (s.ranges.length * edgeSize))
  else match direction with
    | .forward => forwardSet s
    | .backward => backwardSet s

/-- Rounds of a part, after a part that may end in a fork. -/
def rounds (part : Build) : Nat → Bool → Build
  | 0, fork => fun t => some (fork, t)
  | count + 1, fork => fun t =>
      match part t with
      | none => none
      | some (next, t) =>
          match branches 0 [fork] t with
          | none => none
          | some (_, t) => rounds part count next t

def exactly (part : Build) (count : Nat) : Build :=
  if count = 0 then states 1 else rounds part count false

/-- Rounds of a part each of which may be the last, after a part that may end in a fork. -/
def optionalRounds (part : Build) : Nat → Bool → Build
  | 0, fork => branches 0 [fork]
  | count + 1, fork => fun t =>
      match states 1 t with
      | none => none
      | some (_, t) =>
          match part t with
          | none => none
          | some (next, t) =>
              match branches 2 [fork] t with
              | none => none
              | some (_, t) => optionalRounds part count next t

/-- At least `min` rounds of a part, which may or may not match the empty text. -/
def atLeast (part : Build) (nullable : Bool) (min : Nat) : Build := fun t => do
  match min with
  | 0 =>
      if nullable then do
        let (fork, t) ← part t
        let (_, t) ← states 3 t
        branches 4 [fork] t
      else do
        let (_, t) ← states 1 t
        let (fork, t) ← part t
        let (_, t) ← branches 1 [fork] t
        return (true, t)
  | rest + 1 =>
      let (before, t) ← (if rest = 0 then rounds part 0 false t else exactly part rest t)
      let (fork, t) ← part t
      let (_, t) ← states 1 t
      let (_, t) ← branches 1 [before, fork] t
      return (true, t)

def between (part : Build) (min max : Nat) : Build := fun t => do
  if min = max then exactly part min t
  else if min = 0 ∧ max = 1 then do
    let (_, t) ← states 1 t
    let (fork, t) ← part t
    let (_, t) ← states 1 t
    branches 2 [fork] t
  else do
    let (fork, t) ← exactly part min t
    let (_, t) ← states 1 t
    optionalRounds part (max - min) fork t

end Build

/-- A node of the tree of some literals. Its edges are parted where a literal ends in the node,
and each tells how many literals ended there before it. -/
structure Branching where
  ended : Nat
  edges : List (Nat × Nat × Nat)

/-- Adds an octet to a tree, and tells the node it leads to. -/
def growTree (tree : Array Branching × Nat) (octet : Nat) : Array Branching × Nat :=
  let (nodes, at_) := tree
  let node := nodes.getD at_ ⟨0, []⟩
  match node.edges.find? fun e => e.1 = node.ended && e.2.1 = octet with
  | some (_, _, goal) => (nodes, goal)
  | none =>
      let node := { node with edges := (node.ended, octet, nodes.size) :: node.edges }
      ((nodes.setIfInBounds at_ node).push ⟨0, []⟩, nodes.size)

/-- Adds the octets of a literal to a tree. -/
def addLiteral (nodes : Array Branching) (octets : List Nat) : Array Branching :=
  let (nodes, last) := octets.foldl growTree (nodes, 0)
  let node := nodes.getD last ⟨0, []⟩
  if node.edges.isEmpty ∧ node.ended ≠ 0 then nodes
  else nodes.setIfInBounds last { node with ended := node.ended + 1 }

/-- The sum of some sizes. -/
def total (sizes : List Nat) : Nat := sizes.foldl (· + ·) 0

/-- The states and octets for a node: a state for each part of its edges, and a fork. -/
def Branching.size (node : Branching) : Nat × Nat :=
  let parts := (List.range (node.ended + 1)).map fun k => node.edges.countP (·.1 = k)
  let full := parts.filter (· ≠ 0)
  let edges := total (full.filter (· ≠ 1))
  (full.length + 1, edges * edgeSize + (full.length + node.ended) * branchSize)

/-- The part for alternatives that are all literals. -/
def Build.ofLiterals (literals : List (List Nat)) : Build := fun t =>
  let nodes := (literals.foldl addLiteral #[⟨0, []⟩]).toList
  let inner := nodes.take 1 ++ (nodes.drop 1).filter (!·.edges.isEmpty)
  let sizes := inner.map Branching.size
  do return (false, ← t.grow? (1 + total (sizes.map Prod.fst)) (total (sizes.map Prod.snd)))

def literalOctets (codes : List Nat) : List Nat := codes.flatMap Unicode.octets

def asLiteral? : Pattern → Option (List Nat)
  | .literal codes => some (literalOctets codes)
  | _ => none

mutual

/-- The part of an automaton for a pattern. -/
def build (d : Direction) : Pattern → Build
  | .empty | .place _ => Build.states 1
  | .literal codes => Build.states (literalOctets codes).length
  | .set s => Build.ofSet d s
  | .repeated p min none _ =>
      Build.atLeast (build d p) (p.minLength.all (· = 0)) min
  | .repeated p min (some max) _ => Build.between (build d p) min max
  | .capture _ p => fun t =>
      match d with
      | .forward => do
          let (_, t) ← Build.states 1 t
          let (fork, t) ← build d p t
          let (_, t) ← Build.states 1 t
          Build.branches 0 [fork] t
      | .backward => build d p t
  | .sequence ps =>
      match d with
      | .forward => buildForward d ps false
      | .backward => buildBackward d ps
  | .alternatives ps =>
      match ps.mapM asLiteral? with
      | some literals =>
          Build.ofLiterals (if d = .forward then literals else literals.map List.reverse)
      | none => buildOptions d 0 ps

/-- A sequence from its first element on, after a part that may end in a fork. -/
def buildForward (d : Direction) : List Pattern → Bool → Build
  | [], fork => fun t => some (fork, t)
  | p :: ps, fork => fun t =>
      match build d p t with
      | none => none
      | some (next, t) =>
          match Build.branches 0 [fork] t with
          | none => none
          | some (_, t) => buildForward d ps next t

/-- A sequence from its last element on. -/
def buildBackward (d : Direction) : List Pattern → Build
  | [] => fun t => some (false, t)
  | p :: ps => fun t => do
      let (before, t) ← buildBackward d ps t
      let (fork, t) ← build d p t
      let (_, t) ← Build.branches 0 [before] t
      return (fork, t)

/-- Alternatives, `built` of which exist already. The fork and the end of all are built after the
second. -/
def buildOptions (d : Direction) (built : Nat) : List Pattern → Build
  | [] => fun t => some (false, t)
  | p :: ps => fun t => do
      let (fork, t) ← build d p t
      let (_, t) ← Build.branches 1 [fork] t
      let (_, t) ← Build.states (if built = 1 then 2 else 0) t
      buildOptions d (built + 1) ps t

end

mutual

/-- Whether every match begins at the start of the text. -/
def beginsText : Pattern → Bool
  | .place p => p = .textStart
  | .repeated p min _ _ => min ≠ 0 && p.beginsText
  | .capture _ p => p.beginsText
  | .sequence ps => firstBeginsText ps
  | .alternatives ps => allBeginText ps
  | _ => false

def firstBeginsText : List Pattern → Bool
  | [] => false
  | p :: ps => p.beginsText || (p.isEmptyOnly && firstBeginsText ps)

def allBeginText : List Pattern → Bool
  | [] => true
  | p :: ps => p.beginsText && allBeginText ps

end

mutual

/-- Whether every match ends at the end of the text. -/
def endsText : Pattern → Bool
  | .place p => p = .textEnd
  | .repeated p min _ _ => min ≠ 0 && p.endsText
  | .capture _ p => p.endsText
  | .sequence ps => lastEndsText ps
  | .alternatives ps => allEndText ps
  | _ => false

def lastEndsText : List Pattern → Bool
  | [] => false
  | p :: ps => lastEndsText ps || (ps.all isEmptyOnly && p.endsText)

def allEndText : List Pattern → Bool
  | [] => true
  | p :: ps => p.endsText && allEndText ps

end

/-- The automaton that looks for a pattern: a loop over what comes before a match, unless a match
comes first anyway; the pattern as a group; and the end. -/
def automaton (d : Direction) (p : Pattern) : Build := fun t => do
  let anchored := match d with
    | .forward => p.beginsText
    | .backward => p.endsText
  let (_, t) ← Build.states 1 t
  let t ← if anchored then some t else t.grow? 2 (edgeSize + 2 * branchSize)
  let (fork, t) ← build d (.capture 0 p) t
  let (_, t) ← Build.states 1 t
  Build.branches 0 [fork] t

/-- Whether neither automaton of a pattern is too large. -/
def fits (p : Pattern) : Bool :=
  (automaton .forward p ⟨0, 0⟩).isSome && (automaton .backward p ⟨0, 0⟩).isSome

end ImageryJobs.Pattern
