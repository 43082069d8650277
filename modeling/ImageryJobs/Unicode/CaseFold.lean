import ImageryJobs.Text.CaseMap
import ImageryJobs.Unicode.CharSet

/-!
Sets of characters without regard to case: two characters differ in case only if they have the
same simple case folding.
-/

namespace ImageryJobs.Unicode

/-- The code points that a shift moves, each with the one it goes to. -/
def shiftPairs (s : Nat × Nat × Nat × Int) : List (Nat × Nat) :=
  (List.range ((s.2.1 - s.1) / s.2.2.1 + 1)).map fun i =>
    let code := s.1 + i * s.2.2.1
    (code, (code + s.2.2.2 : Int).toNat)

/-- The code points that folding changes, each with its folding. -/
def foldPairs : List (Nat × Nat) := Text.foldShifts.flatMap shiftPairs

/-- The pairs of ASCII letters. -/
def asciiFoldPairs : List (Nat × Nat) :=
  foldPairs.filter fun p => decide (p.1 < 128) && decide (p.2 < 128)

end ImageryJobs.Unicode

namespace ImageryJobs.CharSet

/-- Adds to a set what folds to the same as one of its characters. -/
def closeUnder (pairs : List (Nat × Nat)) (s : CharSet) : CharSet :=
  let folded := (pairs.filter fun p => s.contains p.1 || s.contains p.2).map fun p => (p.2, p.2)
  let goals := ofRanges folded
  let sources := (pairs.filter fun p => goals.contains p.2).map fun p => (p.1, p.1)
  unionAll [s, goals, ofRanges sources]

/-- The characters that differ from one of the set in case only. -/
def anyCase (s : CharSet) : CharSet := s.closeUnder Unicode.foldPairs

/-- The same for ASCII letters alone. -/
def anyAsciiCase (s : CharSet) : CharSet := s.closeUnder Unicode.asciiFoldPairs

end ImageryJobs.CharSet
