import ImageryJobs.Unicode.Property

/-!
Regular patterns over characters and whether one occurs in a text. A pattern is a function on sets
of positions: where a match may end, given where it may begin (`Pattern.ends`). Only occurrence is
asked for, so greedy and lazy repetition agree. Patterns are built by functions that simplify them
(`ofSet`, `times`, `ofSequence`, `ofAlternatives`).
-/

namespace ImageryJobs

/-- A condition on a place between two characters. Where words count, `unicode` tells whether
their characters are those of Unicode or of ASCII. -/
inductive Place where
  | textStart
  | textEnd
  /-- The start or end of a line; with `crlf` a carriage return ends a line too. -/
  | lineStart (crlf : Bool)
  | lineEnd (crlf : Bool)
  /-- Word characters on exactly one side. -/
  | boundary (unicode : Bool)
  | noBoundary (unicode : Bool)
  | wordStart (unicode : Bool)
  | wordEnd (unicode : Bool)
  /-- No word character before the place. -/
  | halfStart (unicode : Bool)
  /-- No word character after the place. -/
  | halfEnd (unicode : Bool)
deriving DecidableEq

namespace Place

def asciiWord : CharSet := .ofTable ["30-39 41-5A 5F 61-7A"]

def isWord (unicode : Bool) (code : Option Nat) : Bool :=
  code.any (if unicode then Unicode.wordCharacters else asciiWord).contains

/-- Whether the condition holds between two characters, either of which may be missing. -/
def holds (before after : Option Nat) : Place → Bool
  | .textStart => before.isNone
  | .textEnd => after.isNone
  | .lineStart crlf =>
      before.isNone || before = some 10 ||
        (crlf && before = some 13 && !decide (after = some 10))
  | .lineEnd crlf =>
      after.isNone || (after = some 10 && !(crlf && decide (before = some 13))) ||
        (crlf && after = some 13)
  | .boundary unicode => isWord unicode before != isWord unicode after
  | .noBoundary unicode => isWord unicode before == isWord unicode after
  | .wordStart unicode => !isWord unicode before && isWord unicode after
  | .wordEnd unicode => isWord unicode before && !isWord unicode after
  | .halfStart unicode => !isWord unicode before
  | .halfEnd unicode => !isWord unicode after

end Place

/-- A regular pattern. -/
inductive Pattern where
  | empty
  /-- Some characters one after the other. -/
  | literal (codes : List Nat)
  | set (s : CharSet)
  | place (p : Place)
  /-- At least `min` and, with a bound, at most `max` times. -/
  | repeated (p : Pattern) (min : Nat) (max : Option Nat) (greedy : Bool)
  /-- A group, numbered by where it begins. -/
  | capture (index : Nat) (p : Pattern)
  | sequence (ps : List Pattern)
  | alternatives (ps : List Pattern)
deriving BEq

namespace Pattern

/-- The pattern that occurs nowhere. -/
def never : Pattern := .set .empty

/-- One character of a set. -/
def ofSet (s : CharSet) : Pattern :=
  match s.single? with
  | some code => .literal [code]
  | none => .set s

mutual

/-- The least length of a match in characters; nothing if an alternative never matches. -/
def minLength : Pattern → Option Nat
  | .empty | .place _ => some 0
  | .literal codes => some codes.length
  | .set s => if s.isEmpty then none else some 1
  | .repeated p min _ _ => p.minLength.map (· * min)
  | .capture _ p => p.minLength
  | .sequence ps => minLengthSum ps
  | .alternatives ps => leastLength ps

def minLengthSum : List Pattern → Option Nat
  | [] => some 0
  | p :: rest => do return (← p.minLength) + (← minLengthSum rest)

def leastLength : List Pattern → Option Nat
  | [] => none
  | [p] => p.minLength
  | p :: rest => do return Nat.min (← p.minLength) (← leastLength rest)

end

mutual

/-- The greatest length of a match, if there is one. -/
def maxLength : Pattern → Option Nat
  | .empty | .place _ => some 0
  | .literal codes => some codes.length
  | .set s => if s.isEmpty then none else some 1
  | .repeated p _ max _ => do return (← p.maxLength) * (← max)
  | .capture _ p => p.maxLength
  | .sequence ps => maxLengthSum ps
  | .alternatives ps => greatestLength ps

def maxLengthSum : List Pattern → Option Nat
  | [] => some 0
  | p :: rest => do return (← p.maxLength) + (← maxLengthSum rest)

def greatestLength : List Pattern → Option Nat
  | [] => none
  | [p] => p.maxLength
  | p :: rest => do return Nat.max (← p.maxLength) (← greatestLength rest)

end

/-- Whether all matches are empty. -/
def isEmptyOnly (p : Pattern) : Bool := p.maxLength = some 0

/-- A repetition. What matches only the empty text is repeated once at most. -/
def times (p : Pattern) (min : Nat) (max : Option Nat) (greedy : Bool) : Pattern :=
  let (min, max) :=
    if p.isEmptyOnly then (Nat.min min 1, some ((max.map (Nat.min · 1)).getD 1)) else (min, max)
  if min = 0 ∧ max = some 0 then .empty
  else if min = 1 ∧ max = some 1 then p
  else .repeated p min max greedy

/-- What stands in a sequence for one of its elements. -/
def elements : Pattern → List Pattern
  | .empty => []
  | .sequence ps => ps
  | p => [p]

/-- Joins literals that stand side by side. -/
def joinLiterals : List Pattern → List Pattern
  | [] => []
  | p :: rest =>
      match p, joinLiterals rest with
      | .literal a, .literal b :: rest => .literal (a ++ b) :: rest
      | p, rest => p :: rest

def ofSequence (ps : List Pattern) : Pattern :=
  match joinLiterals (ps.flatMap elements) with
  | [] => .empty
  | [p] => p
  | ps => .sequence ps

/-- What stands in alternatives for one of them. -/
def options : Pattern → List Pattern
  | .alternatives ps => ps
  | p => [p]

/-- The set of a pattern that is one character. -/
def asSingle? : Pattern → Option CharSet
  | .literal [code] => some (.single code)
  | _ => none

def asSet? : Pattern → Option CharSet
  | .set s => some s
  | _ => none

/-- Alternatives that are characters, or sets of them, are a set. -/
def mergeOptions (ps : List Pattern) : Pattern :=
  match ps with
  | [] => never
  | [p] => p
  | ps =>
      match ps.mapM asSingle? <|> ps.mapM asSet? with
      | some sets => ofSet (.unionAll sets)
      | none => .alternatives ps

/-- The elements with which two sequences begin. -/
def commonStart : List Pattern → List Pattern → List Pattern
  | p :: ps, q :: qs => if p == q then p :: commonStart ps qs else []
  | _, _ => []

def asSequence? : Pattern → Option (List Pattern)
  | .sequence ps => some ps
  | _ => none

/-- Alternatives. If all are sequences with the same beginning, it stands before them once; no
more than that can be common to what is left of them. -/
def ofAlternatives (ps : List Pattern) : Pattern :=
  match mergeOptions (ps.flatMap options) with
  | .alternatives ps =>
      match ps.mapM asSequence? with
      | some (first :: rest) =>
          let start := rest.foldl commonStart first
          if start.isEmpty then .alternatives ps
          else
            let ends := (first :: rest).map fun qs => ofSequence (qs.drop start.length)
            ofSequence (start ++ [mergeOptions (ends.flatMap options)])
      | _ => .alternatives ps
  | p => p

/-- The union of ascending sets of positions. -/
def merge (s t : List Nat) : List Nat := (List.merge s t).eraseReps

/-- The positions of one ascending set that are not in another. -/
def without : List Nat → List Nat → List Nat
  | [], _ => []
  | s, [] => s
  | i :: s, j :: t =>
      if i < j then i :: without s (j :: t)
      else if i = j then without s t
      else without (i :: s) t
termination_by s t => s.length + t.length

/-- Applies a step `count` times, and keeps what it was last applied to. -/
def iterate (step : List Nat → List Nat) : Nat → List Nat → List Nat → List Nat × List Nat
  | 0, before, s => (before, s)
  | _, _, [] => ([], [])
  | count + 1, _, s => iterate step count s (step s)

/-- All positions reached within `count` steps, given those reached and those among them from
which no step was taken. -/
def within (step : List Nat → List Nat) : Nat → List Nat → List Nat → List Nat
  | 0, reached, _ => reached
  | _, reached, [] => reached
  | count + 1, reached, fresh =>
      let next := without (step fresh) reached
      within step count (merge reached next) next

/-- Whether some characters stand at a position. -/
def standsAt (text : Array Nat) : List Nat → Nat → Bool
  | [], _ => true
  | code :: codes, i => text[i]? = some code && standsAt text codes (i + 1)

mutual

/-- The positions where a match may end that begins at one of the given positions. -/
def ends (text : Array Nat) : Pattern → List Nat → List Nat
  | .empty, s => s
  | .literal codes, s =>
      s.filterMap fun i => if standsAt text codes i then some (i + codes.length) else none
  | .set chars, s =>
      s.filterMap fun i => if (text[i]?).any chars.contains then some (i + 1) else none
  | .place p, s => s.filter fun i => p.holds (if i = 0 then none else text[i - 1]?) text[i]?
  | .repeated p min max _, s =>
      -- more rounds than there are places repeat some place, and one round more or less of it
      -- changes nothing
      let rounds (n : Nat) := Nat.min n (text.size + 1)
      let (before, s) := iterate (ends text p) (rounds min) [] s
      within (ends text p) (rounds (max.elim (text.size + 1) (· - min))) s (without s before)
  | .capture _ p, s => ends text p s
  | .sequence ps, s => endsOfAll text ps s
  | .alternatives ps, s => endsOfAny text ps s

/-- The same for patterns one after the other. -/
def endsOfAll (text : Array Nat) : List Pattern → List Nat → List Nat
  | [], s => s
  | p :: ps, s => endsOfAll text ps (ends text p s)

/-- The same for one of some patterns. -/
def endsOfAny (text : Array Nat) : List Pattern → List Nat → List Nat
  | [], _ => []
  | p :: ps, s => merge (ends text p s) (endsOfAny text ps s)

end

/-- Whether the pattern occurs in a text. -/
def occursIn (p : Pattern) (text : String) : Bool :=
  let codes := (text.toList.map Char.toNat).toArray
  !(p.ends codes (List.range (codes.size + 1))).isEmpty

end Pattern
end ImageryJobs
