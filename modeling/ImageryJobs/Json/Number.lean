import ImageryJobs.Number.Shortest

/-!
Numbers of JSON texts. A literal without fraction and exponent that fits 64 bits is an integer;
any other is a binary64 number. `Number.text` writes both, `Number.read?` reads a literal.
-/

namespace ImageryJobs.Json

/-- A number of a JSON text. -/
inductive Number where
  /-- An integer between `-2 ^ 63` and `2 ^ 64 - 1`. -/
  | integer (value : Int)
  | float (value : Binary64)
  deriving DecidableEq

namespace Number

/-- The text of a positive decimal: positional while the exponent of its first digit is from
`-5` to `15`, and always with a point or an exponent. -/
def decimalText (d : Decimal) : List Char :=
  let digits := d.text
  let lead := d.leadingExponent
  if -5 ≤ lead ∧ lead < 16 then
    if lead < 0 then '0' :: '.' :: (List.replicate (-lead - 1).toNat '0' ++ digits)
    else
      let whole := lead.toNat + 1
      if digits.length ≤ whole then
        digits ++ List.replicate (whole - digits.length) '0' ++ ['.', '0']
      else digits.take whole ++ '.' :: digits.drop whole
  else
    let mantissa := match digits with
      | first :: second :: rest => first :: '.' :: second :: rest
      | short => short
    let sign := if lead < 0 then '-' else '+'
    mantissa ++ 'e' :: sign :: Nat.toDigits 10 lead.natAbs

/-- The text of a binary64 number: the shortest that reads back. -/
def floatText (x : Binary64) : List Char :=
  let sign := if x.isNegative then ['-'] else []
  sign ++ if x.isZero then ['0', '.', '0'] else decimalText x.shortest

def text : Number → List Char
  | .integer value => if value < 0 then '-' :: Nat.toDigits 10 value.natAbs
      else Nat.toDigits 10 value.natAbs
  | .float value => floatText value

/-- The value of a decimal digit. -/
def digitValue (c : Char) : Nat := c.toNat - '0'.toNat

/-- The greatest integer whose digits are all kept. -/
def significandMax : Nat := 18446744073709551615

/-- Reads digits while the number they form stays within 64 bits, and gives the digits left. -/
def takeSignificand : Nat → List Char → Nat × List Char
  | acc, [] => (acc, [])
  | acc, c :: rest =>
      let next := 10 * acc + digitValue c
      if significandMax < next then (acc, c :: rest) else takeSignificand next rest

/-- Scales a significand by a power of ten: one multiplication up to `10 ^ 308`, divisions by
`10 ^ 308` and by what is left below. `none` when the result is not finite. -/
def scaled (negative : Bool) (significand : Nat) (exponent : Int) : Option Binary64 := do
  let x ← Binary64.nearest negative significand 1
  if x.isZero then some x
  else if 0 ≤ exponent then
    if exponent ≤ 308 then x.timesPowerOfTen exponent.toNat else none
  else if -308 ≤ exponent then x.overPowerOfTen (-exponent).toNat
  else do
    let y ← x.overPowerOfTen 308
    if -616 ≤ exponent then y.overPowerOfTen (-exponent - 308).toNat
    else some (Binary64.zero negative)

/-- The parts of a number literal. -/
structure Literal where
  negative : Bool
  whole : List Char
  fraction : Option (List Char)
  /-- Sign and digits of the exponent. -/
  exponent : Option (Bool × List Char)
  deriving DecidableEq

namespace Literal

/-- Splits a literal: no leading zero, at least one digit in every part. -/
def parse? (cs : List Char) : Option Literal := do
  let (negative, cs) := match cs with
    | '-' :: rest => (true, rest)
    | cs => (false, cs)
  let whole := cs.takeWhile Char.isDigit
  let cs := cs.dropWhile Char.isDigit
  guard (whole ≠ [] ∧ (whole.head? = some '0' → whole.length = 1))
  let (fraction, cs) ← match cs with
    | '.' :: rest =>
        let digits := rest.takeWhile Char.isDigit
        if digits = [] then none
        else some (some digits, rest.dropWhile Char.isDigit)
    | cs => some (none, cs)
  let exponent ← match cs with
    | [] => some none
    | e :: rest =>
        if e = 'e' ∨ e = 'E' then
          let (down, digits) := match rest with
            | '+' :: digits => (false, digits)
            | '-' :: digits => (true, digits)
            | digits => (false, digits)
          if digits ≠ [] ∧ digits.all Char.isDigit then some (some (down, digits)) else none
        else none
  return ⟨negative, whole, fraction, exponent⟩

/-- The value of a digit string. -/
def natural (digits : List Char) : Nat := digits.foldl (fun n c => 10 * n + digitValue c) 0

/-- The binary64 number of a literal: its leading digits that fit 64 bits, scaled. Digits after
the point may fit again where a digit before it did not. -/
def float? (l : Literal) : Option Binary64 := do
  let (high, wholeLeft) := takeSignificand 0 l.whole
  let fraction := l.fraction.getD []
  let (significand, fractionLeft) := takeSignificand high fraction
  let base : Int := wholeLeft.length + fractionLeft.length - fraction.length
  match l.exponent with
  | none => scaled l.negative significand base
  | some (down, digits) =>
      let e := natural digits
      if 2147483648 ≤ e then
        if significand ≠ 0 ∧ !down then none else some (Binary64.zero l.negative)
      else scaled l.negative significand (if down then base - e else base + e)

/-- The number of a literal; `none` when it is too large. -/
def value? (l : Literal) : Option Number :=
  match l.fraction, l.exponent with
  | none, none =>
      let n := natural l.whole
      if l.negative then
        if n ≠ 0 ∧ n ≤ 9223372036854775808 then some (.integer (-n))
        else l.float?.map .float
      else if n ≤ significandMax then some (.integer n)
      else l.float?.map .float
  | _, _ => l.float?.map .float

end Literal
end Number
end ImageryJobs.Json
