import ImageryJobs.Number.Binary64
import ImageryJobs.Time.Timestamp

/-!
Cells of columns for numbers. A text that reads as a number is kept as that number, and a number
without a fraction as an integer; any other text stays what it is.
-/

namespace ImageryJobs

/-- What a column for numbers holds. -/
inductive NumericCell where
  | integer (value : Int)
  /-- A number that is no integer, or too large for one. -/
  | real (value : Binary64)
  | text (value : String)
  deriving DecidableEq

namespace NumericCell

/-- A decimal number as it is written: significant digits and a power of ten. -/
structure Spelling where
  negative : Bool
  digits : List Char
  exponent : Int
  /-- Whether there is neither a point nor an exponent. -/
  isWhole : Bool
  deriving DecidableEq

namespace Spelling

/-- Blanks that may stand around a number. -/
def isSpace (c : Char) : Bool := c = ' ' || (9 ≤ c.toNat && c.toNat ≤ 13)

/-- Whether a sign says minus, and what follows it. -/
def readSign : List Char → Bool × List Char
  | '-' :: rest => (true, rest)
  | '+' :: rest => (false, rest)
  | cs => (false, cs)

/-- Larger exponents mean nothing more. -/
def exponentLimit : Nat := 10000

/-- The exponent after a significand, if there is one, and what follows it. -/
def readExponent : List Char → Option (Option Int × List Char)
  | [] => some (none, [])
  | e :: rest =>
      if e = 'e' ∨ e = 'E' then
        let (down, cs) := readSign rest
        let digits := cs.takeWhile Char.isDigit
        let size : Int := min (Timestamp.natural digits) exponentLimit
        if digits = [] then none
        else some (some (if down then -size else size), cs.drop digits.length)
      else some (none, e :: rest)

/-- Reads a text that is a number: at least one digit, before or after the point. -/
def read? (text : String) : Option Spelling := do
  let (negative, cs) := readSign (text.toList.dropWhile isSpace)
  let whole := cs.takeWhile Char.isDigit
  let (fraction, cs) := match cs.drop whole.length with
    | '.' :: rest => (some (rest.takeWhile Char.isDigit), rest.dropWhile Char.isDigit)
    | cs => (none, cs)
  let digits := whole ++ fraction.getD []
  guard (digits ≠ [])
  let (exponent, cs) ← readExponent cs
  guard (cs.all isSpace)
  return {
    negative, digits
    exponent := exponent.getD 0 - (fraction.getD []).length
    isWhole := fraction.isNone && exponent.isNone }

/-- Numerator and denominator of the magnitude. -/
def ratio (s : Spelling) : Nat × Nat :=
  let n := Timestamp.natural s.digits
  if 0 ≤ s.exponent then (n * Nat.pow 10 s.exponent.toNat, 1)
  else (n, Nat.pow 10 (-s.exponent).toNat)

end Spelling

/-- Integers are below this number, and not below its opposite. -/
def integerBound : Int := 9223372036854775808

/-- The cell of a binary64 number. -/
def ofBinary64 (x : Binary64) : NumericCell :=
  let (num, den) := x.ratio
  let value : Int := if x.isNegative then -(num / den : Nat) else (num / den : Nat)
  if num % den = 0 ∧ -integerBound < value ∧ value < integerBound then .integer value else .real x

/-- The cell of a text. -/
def ofText (text : String) : NumericCell :=
  match Spelling.read? text with
  | none => .text text
  | some s =>
      let (num, den) := s.ratio
      let value : Int := if s.negative then -num else num
      if s.isWhole ∧ -integerBound ≤ value ∧ value < integerBound then .integer value
      else ofBinary64 ((Binary64.nearest s.negative num den).getD (.infinite s.negative))

def integer? : NumericCell → Option Int
  | .integer value => some value
  | .real _ | .text _ => none

/-- Whether a cell holds a point in time: seconds since 1970, Julian days, or date and time. -/
def isTime : NumericCell → Bool
  | .integer seconds => Timestamp.isKnown seconds
  | .real days =>
      let (num, den) := days.ratio
      Timestamp.isJulian (if days.isNegative then -num else num) den
  | .text value => Timestamp.isStored value

end NumericCell
end ImageryJobs
