import ImageryJobs.Text.Utf8

/-!
Percent encoding: letters, digits and `-_.~` stand as they are, every other octet of the UTF-8
form is written as `%` and two hexadecimal digits. Reading leaves a `%` without two digits alone.
-/

namespace ImageryJobs.Text.Percent

/-- Whether an octet stands as it is. -/
def isPlain (b : UInt8) : Bool :=
  let c := Char.ofNat b.toNat
  b < 128 && (c.isAlphanum || c = '-' || c = '_' || c = '.' || c = '~')

/-- A hexadecimal digit, upper case. -/
def hexDigit (n : Nat) : Char := if n < 10 then Char.ofNat (48 + n) else Char.ofNat (55 + n)

def encodeOctet (b : UInt8) : List Char :=
  if isPlain b then [Char.ofNat b.toNat]
  else ['%', hexDigit (b.toNat / 16), hexDigit (b.toNat % 16)]

def encode (s : String) : String := String.ofList ((octets s).flatMap encodeOctet)

/-- The value of a hexadecimal digit of either case. -/
def hexValue? (b : UInt8) : Option Nat :=
  let n := b.toNat
  if 48 ≤ n ∧ n ≤ 57 then some (n - 48)
  else if 65 ≤ n ∧ n ≤ 70 then some (n - 55)
  else if 97 ≤ n ∧ n ≤ 102 then some (n - 87)
  else none

def decodeOctets : List UInt8 → List UInt8
  | [] => []
  | [a] => [a]
  | [a, b] => [a, b]
  | a :: b :: c :: rest =>
      if a = 37 then
        match hexValue? b, hexValue? c with
        | some high, some low => UInt8.ofNat (16 * high + low) :: decodeOctets rest
        | _, _ => a :: decodeOctets (b :: c :: rest)
      else a :: decodeOctets (b :: c :: rest)

/-- Reads a text; nothing if the octets are no UTF-8. -/
def decode? (s : String) : Option String := ofOctets? (decodeOctets (octets s))

end ImageryJobs.Text.Percent
