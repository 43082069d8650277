import ImageryJobs.Unicode.CharSet

/-!
Patterns as they are written: what stands in the text, before flags give it a meaning. The
greatest depth of nesting is `depth`.
-/

namespace ImageryJobs.Pattern

/-- What a letter of a flag group switches. -/
inductive Flag where
  | ignoreCase | multiLine | dotAll | swapGreed | unicode | crlf | verbose
deriving DecidableEq

/-- The switches of a flag group, on or off. -/
abbrev Switches := List (Flag × Bool)

/-- A character as it is written. -/
structure Literal where
  code : Nat
  /-- It is written as two hexadecimal digits, which may also mean an octet. -/
  octet : Bool

/-- The sets that have a letter of their own. -/
inductive Shorthand where
  | digit | blank | word

/-- A set that Unicode names. -/
inductive Named where
  | single (name : List Char)
  | valued (property value : List Char)

inductive SetOp where
  | inter | diff | symmetricDiff

/-- A set of characters as it is written. -/
inductive WrittenSet where
  | empty
  | literal (l : Literal)
  | range (low high : Literal)
  | ascii (negated : Bool) (set : CharSet)
  | shorthand (negated : Bool) (set : Shorthand)
  | named (negated : Bool) (set : Named)
  | bracketed (negated : Bool) (set : WrittenSet)
  /-- At least two elements, one after the other. -/
  | union (items : List WrittenSet)
  | combined (op : SetOp) (left right : WrittenSet)

/-- A condition on a place between two characters. -/
inductive WrittenPlace where
  | lineStart | lineEnd | textStart | textEnd
  | boundary | noBoundary | wordStart | wordEnd | halfStart | halfEnd

/-- What the parentheses of a group do. -/
inductive GroupKind where
  | numbered (index : Nat)
  | switched (flags : Switches)

/-- A pattern as it is written. -/
inductive Written where
  | empty
  | flags (switches : Switches)
  | literal (l : Literal)
  | dot
  | place (p : WrittenPlace)
  | set (s : WrittenSet)
  | repeated (p : Written) (min : Nat) (max : Option Nat) (greedy : Bool)
  | group (kind : GroupKind) (p : Written)
  /-- At least two alternatives. -/
  | alternatives (ps : List Written)
  /-- At least two elements. -/
  | sequence (ps : List Written)

namespace WrittenSet

/-- The set of elements that stand one after the other. -/
def ofItems : List WrittenSet → WrittenSet
  | [] => .empty
  | [item] => item
  | items => .union items

mutual

def depth : WrittenSet → Nat
  | .bracketed _ s => s.depth + 1
  | .union items => depthAll items + 1
  | .combined _ a b => Nat.max a.depth b.depth + 1
  | _ => 0

def depthAll : List WrittenSet → Nat
  | [] => 0
  | s :: rest => Nat.max s.depth (depthAll rest)

end

end WrittenSet

namespace Written

def ofSequence : List Written → Written
  | [] => .empty
  | [p] => p
  | ps => .sequence ps

def ofAlternatives : List Written → Written
  | [] => .empty
  | [p] => p
  | ps => .alternatives ps

/-- What may be an element of a set. -/
def asSet? : Written → Option WrittenSet
  | .literal l => some (.literal l)
  | .set s => some s
  | _ => none

/-- What may be the end of a range. -/
def asLiteral? : Written → Option Literal
  | .literal l => some l
  | _ => none

/-- Whether it may be repeated. -/
def isRepeatable : Written → Bool
  | .empty | .flags _ => false
  | _ => true

mutual

/-- How deep repetitions, groups, alternatives, sequences and sets stand in each other. -/
def depth : Written → Nat
  | .set s => s.depth
  | .repeated p _ _ _ => p.depth + 1
  | .group _ p => p.depth + 1
  | .alternatives ps => depthAll ps + 1
  | .sequence ps => depthAll ps + 1
  | _ => 0

def depthAll : List Written → Nat
  | [] => 0
  | p :: rest => Nat.max p.depth (depthAll rest)

end

/-- No pattern may be deeper. -/
def depthLimit : Nat := 250

end Written
end ImageryJobs.Pattern
