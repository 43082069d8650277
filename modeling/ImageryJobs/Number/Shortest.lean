import ImageryJobs.Number.Binary64

/-!
The shortest decimal that reads back as a given binary64 number: the fewest digits, and of those
the nearest to the number.
-/

namespace ImageryJobs

/-- A positive decimal `digits · 10 ^ exponent`. -/
structure Decimal where
  digits : Nat
  exponent : Int
  deriving DecidableEq, Repr

namespace Decimal

/-- The value over the common denominator `den`: `digits · 10 ^ exponent = numerator / den`,
where `den` is a multiple of `10 ^ (- exponent)`. -/
def overDenominator (d : Decimal) (den : Nat) : Nat :=
  if 0 ≤ d.exponent then d.digits * Nat.pow 10 d.exponent.toNat * den
  else d.digits * den / Nat.pow 10 (-d.exponent).toNat

/-- Moves factors of ten from the digits to the exponent. -/
def normalize : Nat → Decimal → Decimal
  | 0, d => d
  | fuel + 1, d =>
      if d.digits ≠ 0 ∧ d.digits % 10 = 0 then
        normalize fuel ⟨d.digits / 10, d.exponent + 1⟩
      else d

/-- The text of the digits. -/
def text (d : Decimal) : List Char := Nat.toDigits 10 d.digits

/-- The exponent of the first digit. -/
def leadingExponent (d : Decimal) : Int := d.exponent + d.text.length - 1

end Decimal

namespace Binary64

/-- The interval of real numbers that round to a number, over a common denominator, and whether
its ends belong to it. -/
structure Basin where
  low : Nat
  value : Nat
  high : Nat
  den : Nat
  closed : Bool

/-- The basin of a number other than zero. Below a power of two the neighbour is half as far. -/
def basin (x : Binary64) : Basin :=
  let m := x.significand
  let low := if m = exponentUnit ∧ 0 < x.scale then 4 * m - 1 else 4 * m - 2
  if 1076 ≤ x.scale then
    let unit := Nat.pow 2 (x.scale - 1076)
    ⟨low * unit, 4 * m * unit, (4 * m + 2) * unit, 1, m % 2 = 0⟩
  else ⟨low, 4 * m, 4 * m + 2, Nat.pow 2 (1076 - x.scale), m % 2 = 0⟩

/-- The decimal of `count` digits nearest to the number among those in its basin. `lead` is the
exponent of the number's first digit. -/
def shortestOf? (b : Basin) (lead : Int) (count : Nat) : Option Decimal :=
  let exponent : Int := lead - count + 1
  -- over `den` one step of the grid is `up / down`
  let up := Nat.pow 10 exponent.toNat * b.den
  let down := Nat.pow 10 (-exponent).toNat
  let below := b.value * down / up
  let inside (c : Nat) : Bool :=
    if b.closed then b.low * down ≤ c * up && c * up ≤ b.high * down
    else b.low * down < c * up && c * up < b.high * down
  let lower := b.value * down - below * up
  let upper := (below + 1) * up - b.value * down
  match inside below, inside (below + 1) with
  | true, true =>
      if lower < upper then some ⟨below, exponent⟩
      else if upper < lower then some ⟨below + 1, exponent⟩
      else some ⟨below + below % 2, exponent⟩
  | true, false => some ⟨below, exponent⟩
  | false, true => some ⟨below + 1, exponent⟩
  | false, false => none

/-- The exponent of the first decimal digit of `num / den`. -/
def leadOf (num den : Nat) : Int :=
  if den ≤ num then (Nat.toDigits 10 (num / den)).length - 1
  else
    let k : Int := (Nat.toDigits 10 (den / num)).length
    if num * Nat.pow 10 (k.toNat - 1) = den then 1 - k else -k

/-- The shortest decimal of a number other than zero; seventeen digits always suffice. -/
def shortest (x : Binary64) : Decimal :=
  let b := x.basin
  let lead := leadOf b.value b.den
  let found := (List.range 17).findSome? fun i => shortestOf? b lead (i + 1)
  (found.getD ⟨0, 0⟩).normalize 20

end Binary64
end ImageryJobs
