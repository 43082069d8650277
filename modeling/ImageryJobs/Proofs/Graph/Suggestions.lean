import ImageryJobs.Proofs.Graph.EditDistance
import ImageryJobs.Proofs.Text.Order

/-!
Which id is suggested for an unknown one. Among the known ids that are near enough it is the one that
precedes all others: by its distance from the unknown id, then by its octets. Hence neither the order
in which ids are known nor their repetition matters.
-/

namespace ImageryJobs.Suggestion

/-! ### The best candidate -/

section Best

variable {a b c : Nat × String} {l : List (Nat × String)}

end Best

/-! ### The nearest id -/

variable {unknown id : String} {known : List String}

/-- The known ids that are near enough, each with its distance. -/
def candidates (unknown : String) (known : List String) : List (Nat × String) :=
  (known.map fun id => (editDistance (key unknown) (key id), id)).filter
    (·.1 ≤ max ((key unknown).length / 3) 2)

end ImageryJobs.Suggestion
