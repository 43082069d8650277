/-!
The known id that an unknown one was probably meant to be: the nearest by edit distance within a
limit, ids compared without regard to ASCII case and to the spelling of dashes.
-/

namespace ImageryJobs.Suggestion

/-- Insertions, deletions and replacements that lead from one list to another. -/
def distance [DecidableEq α] : List α → List α → Nat
  | [], t => t.length
  | s, [] => s.length
  | a :: s, b :: t =>
      if a = b then distance s t
      else 1 + min (distance s t) (min (distance s (b :: t)) (distance (a :: s) t))

/-- The cells of a row after its first: each from the cell on its left, the one above it in the row
before, and `diagonal`, the one on the left of that. -/
def nextCells [DecidableEq α] (a : α) (diagonal left : Nat) : List α → List Nat → List Nat
  | b :: t, above :: row =>
      let cell := min (min (diagonal + if a = b then 0 else 1) (left + 1)) (above + 1)
      cell :: nextCells a above cell t row
  | _, _ => []

/-- The row that follows when `a` is read after `i` others. -/
def nextRow [DecidableEq α] (t : List α) (row : List Nat) : α × Nat → List Nat
  | (a, i) => (i + 1) :: nextCells a (row.headD 0) (i + 1) t row.tail

/-- The distances of a list from the beginnings of `t`, shortest first: a row for each beginning of
the list, from the row before. -/
def row [DecidableEq α] (t s : List α) : List Nat :=
  s.zipIdx.foldl (nextRow t) (List.range (t.length + 1))

/-- The edit distance, by rows. -/
def editDistance [DecidableEq α] (s t : List α) : Nat := (row t s)[t.length]?.getD 0

/-- An id in the form in which ids are compared. -/
def key (id : String) : List Char :=
  id.toList.map fun c => if c = '-' then '_' else c.toLower

/-- Whether one candidate is better: nearer, or as near and of the smaller id. -/
def better (a b : Nat × String) : Bool := a.1 < b.1 || (a.1 = b.1 && a.2 < b.2)

/-- The best candidate. -/
def best : List (Nat × String) → Option (Nat × String)
  | [] => none
  | a :: rest =>
      match best rest with
      | none => some a
      | some b => some (if better b a then b else a)

/-- The nearest known id, no farther than a third of the unknown id's length or 2. -/
def nearest (unknown : String) (known : List String) : Option String :=
  let wanted := key unknown
  let limit := max (wanted.length / 3) 2
  let candidates := known.map fun id => (editDistance wanted (key id), id)
  (best (candidates.filter (·.1 ≤ limit))).map Prod.snd

end ImageryJobs.Suggestion
