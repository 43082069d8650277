import ImageryJobs.Unicode.CharSet

/-!
The octets of characters, and ranges of characters as sequences of ranges of octets: a character
lies in the range exactly if its octets lie, one by one, in those of one of the sequences.
-/

namespace ImageryJobs.Unicode

/-- The octets of a character in UTF-8. -/
def octets (code : Nat) : List Nat :=
  let part (shift : Nat) : Nat := 0x80 + code / shift % 64
  if code < 0x80 then [code]
  else if code < 0x800 then [0xC0 + code / 64, part 1]
  else if code < 0x10000 then [0xE0 + code / 4096, part 64, part 1]
  else [0xF0 + code / 262144, part 4096, part 64, part 1]

/-- The last code point of the first part, if a range needs to be parted: where the number of
octets changes, or where some octets but the last differ and those after them are not free. -/
def partAfter? (low high : Nat) : Option Nat :=
  let atLength := [0x7F, 0x7FF, 0xFFFF].find? fun last => low ≤ last && last < high
  let atOctet (block : Nat) : Option Nat :=
    if low / block = high / block then none
    else if low % block ≠ 0 then some (low / block * block + block - 1)
    else if high % block ≠ block - 1 then some (high / block * block - 1)
    else none
  atLength <|> (if high < 0x80 then none else [64, 4096, 262144].findSome? atOctet)

/-- The sequences of ranges of octets for a range of code points, ascending. -/
def octetRanges (low high : Nat) : List (List (Nat × Nat)) :=
  match partAfter? low high with
  | some last =>
      if h : low ≤ last ∧ last < high then octetRanges low last ++ octetRanges (last + 1) high
      else []
  | none => [(octets low).zip (octets high)]
termination_by high - low

end ImageryJobs.Unicode

namespace ImageryJobs.CharSet

/-- The sequences of ranges of octets for all characters of a set. -/
def octetRanges (s : CharSet) : List (List (Nat × Nat)) :=
  s.ranges.flatMap fun r => Unicode.octetRanges r.1 r.2

end ImageryJobs.CharSet
