/-!
White space as the Unicode property has it, and trimming by it.
-/

namespace ImageryJobs.Text

/-- The ranges of the property White_Space. -/
def blankRanges : List (Nat × Nat) :=
  [(0x9, 0xD), (0x20, 0x20), (0x85, 0x85), (0xA0, 0xA0), (0x1680, 0x1680), (0x2000, 0x200A),
   (0x2028, 0x2029), (0x202F, 0x202F), (0x205F, 0x205F), (0x3000, 0x3000)]

def isBlank (c : Char) : Bool :=
  blankRanges.any fun r => decide (r.1 ≤ c.toNat) && decide (c.toNat ≤ r.2)

/-- Cuts blanks at the start. -/
def trimStart (s : String) : String := String.ofList (s.toList.dropWhile isBlank)

/-- Cuts blanks at the end. -/
def trimEnd (s : String) : String := String.ofList (s.toList.reverse.dropWhile isBlank).reverse

def trim (s : String) : String := trimEnd (trimStart s)

end ImageryJobs.Text
