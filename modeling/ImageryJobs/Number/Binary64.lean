/-!
Numbers of the binary64 format, kept as their bits. A finite magnitude is `m · 2 ^ q` with
natural `m`; every operation is exact arithmetic on `Nat` followed by one rounding to nearest,
ties to even (`Binary64.nearest`).
-/

namespace ImageryJobs

/-- A binary64 number. `bits` holds sign, exponent and fraction as the format lays them out. -/
structure Binary64 where
  bits : UInt64
  deriving DecidableEq

namespace Binary64

/-- The weight `2 ^ 52` of the lowest exponent bit. -/
def exponentUnit : Nat := 4503599627370496

/-- The weight `2 ^ 63` of the sign bit. -/
def signUnit : Nat := 9223372036854775808

def isNegative (x : Binary64) : Bool := signUnit ≤ x.bits.toNat

/-- The bits without the sign. Their order is the order of magnitudes. -/
def magnitude (x : Binary64) : Nat := x.bits.toNat % signUnit

/-- The natural number `m` of the magnitude `m · 2 ^ (q - 1074)`. -/
def significand (x : Binary64) : Nat :=
  if x.magnitude < exponentUnit then x.magnitude
  else exponentUnit + x.magnitude % exponentUnit

/-- The exponent `q` of the magnitude `m · 2 ^ (q - 1074)`. -/
def scale (x : Binary64) : Nat := x.magnitude / exponentUnit - 1

def isZero (x : Binary64) : Bool := x.magnitude = 0

/-- The number with the given sign and magnitude bits. -/
def ofMagnitude (negative : Bool) (magnitude : Nat) : Binary64 :=
  ⟨UInt64.ofNat (magnitude + if negative then signUnit else 0)⟩

/-- Zero with a sign. -/
def zero (negative : Bool) : Binary64 := ofMagnitude negative 0

/-- Infinity with a sign, whose magnitude follows that of the largest number. -/
def infinite (negative : Bool) : Binary64 := ofMagnitude negative (2047 * exponentUnit)

/-- Numerator and denominator of the magnitude. -/
def ratio (x : Binary64) : Nat × Nat :=
  if 1074 ≤ x.scale then (x.significand * Nat.pow 2 (x.scale - 1074), 1)
  else (x.significand, Nat.pow 2 (1074 - x.scale))

/-- `num / den` rounded to the nearest integer, a half to the even neighbour. -/
def roundHalfEven (num den : Nat) : Nat :=
  let quotient := num / den
  let twice := 2 * (num % den)
  if twice < den then quotient
  else if den < twice then quotient + 1
  else quotient + quotient % 2

/-- The least `q` for which `num / den` is below `2 ^ 53 · 2 ^ (q - 1074)`. -/
def scaleFor (num den : Nat) : Nat :=
  let shifted := num * Nat.pow 2 1074 / den
  Nat.log2 shifted - 52

/-- The number nearest to `num / den`, ties to even; `none` from the largest number on, where
the next one would not be finite. -/
def nearest (negative : Bool) (num den : Nat) : Option Binary64 :=
  let scale := scaleFor num den
  let rounded := roundHalfEven (num * Nat.pow 2 1074) (den * Nat.pow 2 scale)
  let magnitude := rounded + scale * exponentUnit
  if magnitude < 2047 * exponentUnit then some (ofMagnitude negative magnitude) else none

/-- The nearest number to a natural number. -/
def ofNat? (n : Nat) : Option Binary64 := nearest false n 1

/-- The product of the magnitude with a power of ten, which is itself rounded first. -/
def timesPowerOfTen (x : Binary64) (k : Nat) : Option Binary64 := do
  let power ← ofNat? (Nat.pow 10 k)
  nearest x.isNegative (x.ratio.1 * power.ratio.1) (x.ratio.2 * power.ratio.2)

/-- The quotient of the magnitude by a power of ten, which is itself rounded first. -/
def overPowerOfTen (x : Binary64) (k : Nat) : Option Binary64 := do
  let power ← ofNat? (Nat.pow 10 k)
  nearest x.isNegative (x.ratio.1 * power.ratio.2) (x.ratio.2 * power.ratio.1)

end Binary64
end ImageryJobs
