/-!
Sets of characters as ascending ranges of code points, closed under union, complement and what
follows from the two. Surrogates are no characters, and no set holds one. Large sets are written
as tables of ranges in hexadecimal.
-/

namespace ImageryJobs

/-- A set of characters: ranges of code points that ascend, no two of which meet. -/
structure CharSet where
  ranges : List (Nat × Nat)
deriving DecidableEq

namespace CharSet

def empty : CharSet := ⟨[]⟩

def isEmpty (s : CharSet) : Bool := s.ranges.isEmpty

/-- Whether a code point lies in one of some ascending ranges. -/
def inRanges (code : Nat) : List (Nat × Nat) → Bool
  | [] => false
  | (low, high) :: rest => if code < low then false else code ≤ high || inRanges code rest

def contains (s : CharSet) (code : Nat) : Bool := inRanges code s.ranges

/-- The set of the code points from `low` to `high`, neither of which is a surrogate. -/
def range (low high : Nat) : CharSet :=
  if low < 0xD800 ∧ 0xE000 ≤ high then ⟨[(low, 0xD7FF), (0xE000, high)]⟩ else ⟨[(low, high)]⟩

def single (code : Nat) : CharSet := ⟨[(code, code)]⟩

/-- The only code point of a set that has one. -/
def single? : CharSet → Option Nat
  | ⟨[(low, high)]⟩ => if low = high then some low else none
  | _ => none

/-- Joins ranges that meet; the ranges ascend by their lower bounds. -/
def joinFrom (low high : Nat) : List (Nat × Nat) → List (Nat × Nat)
  | [] => [(low, high)]
  | (low', high') :: rest =>
      if low' ≤ high + 1 then joinFrom low (Nat.max high high') rest
      else (low, high) :: joinFrom low' high' rest

def join : List (Nat × Nat) → List (Nat × Nat)
  | [] => []
  | (low, high) :: rest => joinFrom low high rest

def startsFirst (a b : Nat × Nat) : Bool := decide (a.1 ≤ b.1)

def union (s t : CharSet) : CharSet := ⟨join (List.merge s.ranges t.ranges startsFirst)⟩

def unionAll (sets : List CharSet) : CharSet := sets.foldl union empty

/-- The set of ranges in any order. -/
def ofRanges (ranges : List (Nat × Nat)) : CharSet := ⟨join (ranges.mergeSort startsFirst)⟩

/-- What some ascending ranges leave out from a code point on. -/
def gapsFrom (next : Nat) : List (Nat × Nat) → List (Nat × Nat)
  | [] => if next ≤ 0x10FFFF then [(next, 0x10FFFF)] else []
  | (low, high) :: rest =>
      if next < low then (next, low - 1) :: gapsFrom (high + 1) rest else gapsFrom (high + 1) rest

/-- The code points that are kept for pairs of code units. -/
def surrogates : List (Nat × Nat) := [(0xD800, 0xDFFF)]

/-- All characters that are not in the set. -/
def complement (s : CharSet) : CharSet :=
  ⟨gapsFrom 0 (join (List.merge s.ranges surrogates startsFirst))⟩

def all : CharSet := empty.complement

def inter (s t : CharSet) : CharSet := (s.complement.union t.complement).complement

def diff (s t : CharSet) : CharSet := (s.complement.union t).complement

def symmetricDiff (s t : CharSet) : CharSet := (s.diff t).union (t.diff s)

/-- Whether all characters of the set are below 128. -/
def isAscii (s : CharSet) : Bool := s.ranges.all fun r => decide (r.2 < 128)

/-- The entry of a table that is being read: its numbers so far, last first. -/
structure TableEntry where
  number : Nat
  before : List Nat

/-- The ranges of an entry: one code point, a range, or every `step`-th of a range. -/
def TableEntry.ranges (e : TableEntry) : List (Nat × Nat) :=
  match e.before with
  | [] => [(e.number, e.number)]
  | [low] => [(low, e.number)]
  | high :: low :: _ =>
      (List.range ((high - low) / e.number + 1)).map fun i =>
        (low + i * e.number, low + i * e.number)

def hexValue (c : Char) : Nat := if c.isDigit then c.toNat - 48 else c.toNat - 55

/-- Reads one character of a table: `41-5A` is a range, `100-136/2` every second of one, and a
blank parts the entries. -/
def readEntry (state : List (Nat × Nat) × TableEntry) (c : Char) : List (Nat × Nat) × TableEntry :=
  if c = ' ' then (state.2.ranges.reverse ++ state.1, ⟨0, []⟩)
  else if c = '-' ∨ c = '/' then (state.1, ⟨0, state.2.number :: state.2.before⟩)
  else (state.1, ⟨16 * state.2.number + hexValue c, state.2.before⟩)

/-- The ranges of a line of a table. -/
def lineRanges (line : String) : List (Nat × Nat) :=
  let (ranges, last) := line.foldl readEntry ([], ⟨0, []⟩)
  (last.ranges.reverse ++ ranges).reverse

/-- The set that a table gives, its entries ascending. -/
def ofTable (lines : List String) : CharSet := ⟨join (lines.flatMap lineRanges)⟩

end CharSet
end ImageryJobs
