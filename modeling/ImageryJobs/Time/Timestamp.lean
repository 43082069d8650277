import ImageryJobs.Text.Blank

/-!
Points in time: reading the date, time and offset of RFC 3339 with some freedom in blanks, and
writing them in UTC with as many groups of three decimals as needed.
-/

namespace ImageryJobs

/-- A point in time. From a leap second on, `nanos` counts past a whole second. -/
structure Timestamp where
  /-- Seconds since the start of 1970, in UTC. -/
  seconds : Int
  nanos : Nat
  deriving DecidableEq

namespace Timestamp

/-! ## Calendar -/

def isLeapYear (year : Int) : Bool := year % 4 = 0 && (year % 100 ≠ 0 || year % 400 = 0)

def daysInMonth (year : Int) (month : Nat) : Nat :=
  if month = 2 then if isLeapYear year then 29 else 28
  else if month = 4 ∨ month = 6 ∨ month = 9 ∨ month = 11 then 30
  else 31

/-- Days from the start of 1970 to a date. Years are counted from March, so that the leap day is
the last of a year. -/
def daysOfDate (year : Int) (month day : Nat) : Int :=
  let y := if month ≤ 2 then year - 1 else year
  let monthFromMarch : Int := ((month + 9) % 12 : Nat)
  let dayOfYear := (153 * monthFromMarch + 2) / 5 + day - 1
  let era := y / 400
  let yearOfEra := y % 400
  era * 146097 + yearOfEra * 365 + yearOfEra / 4 - yearOfEra / 100 + dayOfYear - 719468

/-- The date so many days after the start of 1970: year, month and day. -/
def dateOfDays (days : Int) : Int × Nat × Nat :=
  let z := days + 719468
  let era := z / 146097
  let dayOfEra := z % 146097
  let yearOfEra :=
    (dayOfEra - dayOfEra / 1460 + dayOfEra / 36524 - dayOfEra / 146096) / 365
  let dayOfYear := dayOfEra - (365 * yearOfEra + yearOfEra / 4 - yearOfEra / 100)
  let monthFromMarch := (5 * dayOfYear + 2) / 153
  let day := dayOfYear - (153 * monthFromMarch + 2) / 5 + 1
  let month := if monthFromMarch < 10 then monthFromMarch + 3 else monthFromMarch - 9
  let year := yearOfEra + era * 400 + if month ≤ 2 then 1 else 0
  (year, month.toNat, day.toNat)

/-- The years of the calendar that is known. -/
def firstYear : Int := -262143
def lastYear : Int := 262142

/-- Whether a point in time falls into these years in UTC. -/
def isKnown (seconds : Int) : Bool :=
  daysOfDate firstYear 1 1 * 86400 ≤ seconds && seconds < daysOfDate (lastYear + 1) 1 1 * 86400

/-! ## Reading -/

/-- Cuts blanks at the start. -/
def trimStart (cs : List Char) : List Char := cs.dropWhile Text.isBlank

def natural (digits : List Char) : Nat :=
  digits.foldl (fun n c => 10 * n + (c.toNat - 48)) 0

/-- Between one and `width` digits. -/
def readDigits (width : Nat) (cs : List Char) : Option (Nat × List Char) :=
  let digits := (cs.take width).takeWhile Char.isDigit
  if digits = [] then none else some (natural digits, cs.drop digits.length)

/-- A number after blanks, with at most `width` digits and at most `max`. -/
def readNumber (width max : Nat) (cs : List Char) : Option (Nat × List Char) := do
  let (n, rest) ← readDigits width (trimStart cs)
  if n ≤ max then some (n, rest) else none

/-- A year: up to four digits, or any number of them after a sign. -/
def readYear (cs : List Char) : Option (Int × List Char) :=
  match trimStart cs with
  | '-' :: rest => (readDigits rest.length rest).map fun (n, rest) => (-n, rest)
  | '+' :: rest => (readDigits rest.length rest).map fun (n, rest) => (n, rest)
  | cs => (readDigits 4 cs).map fun (n, rest) => (n, rest)

/-- A separator after blanks. -/
def readMark (mark : Char) (cs : List Char) : Option (List Char) :=
  match trimStart cs with
  | c :: rest => if c = mark then some rest else none
  | [] => none

/-- The decimals of a second; those after the ninth are dropped. -/
def readFraction : List Char → Option (Nat × List Char)
  | '.' :: cs => do
      let digits := cs.takeWhile Char.isDigit
      guard (digits ≠ [])
      let nine := digits.take 9
      return (natural nine * Nat.pow 10 (9 - nine.length), cs.drop digits.length)
  | cs => some (0, cs)

/-- An offset from UTC in seconds: `Z`, `UTC`, or sign, hours and minutes. -/
def readOffset (cs : List Char) : Option (Int × List Char) :=
  match cs with
  | 'Z' :: rest | 'z' :: rest => some (0, rest)
  | cs =>
      if (cs.take 3).map Char.toUpper = ['U', 'T', 'C'] then some (0, cs.drop 3)
      else match cs with
        | sign :: h1 :: h2 :: rest => do
            guard (sign = '+' ∨ sign = '-' ∨ sign.toNat = 0x2212)
            guard (h1.isDigit ∧ h2.isDigit)
            let rest := rest.dropWhile fun c => c = ':' || Text.isBlank c
            match rest with
            | m1 :: m2 :: rest => do
                guard (m1.isDigit ∧ m2.isDigit)
                let minutes := natural [m1, m2]
                guard (minutes < 60)
                let offset : Int := natural [h1, h2] * 3600 + minutes * 60
                guard (offset < 86400)
                return (if sign = '+' then offset else -offset, rest)
            | _ => none
        | _ => none

/-- Reads a point in time. -/
def read? (text : String) : Option Timestamp := do
  let (year, cs) ← readYear text.toList
  let cs ← readMark '-' cs
  let (month, cs) ← readNumber 2 12 cs
  let cs ← readMark '-' cs
  let (day, cs) ← readNumber 2 31 cs
  let cs ← match cs with
    | c :: rest => if c = 'T' ∨ c = 't' ∨ c = ' ' then some rest else none
    | [] => none
  let (hour, cs) ← readNumber 2 23 cs
  let cs ← readMark ':' cs
  let (minute, cs) ← readNumber 2 59 cs
  let cs ← readMark ':' cs
  let (second, cs) ← readNumber 2 60 cs
  let (nanos, cs) ← readFraction cs
  let (offset, cs) ← readOffset (trimStart cs)
  guard (trimStart cs = [])
  guard (firstYear ≤ year ∧ year ≤ lastYear)
  guard (1 ≤ month ∧ 1 ≤ day ∧ day ≤ daysInMonth year month)
  let wholeSecond := min second 59
  let seconds := daysOfDate year month day * 86400 + (hour * 3600 + minute * 60 + wholeSecond : Nat)
    - offset
  guard (isKnown seconds)
  return ⟨seconds, nanos + (second - wholeSecond) * 1000000000⟩

/-! ## Dates and times of a table -/

/-- A mark at once. -/
def readChar (mark : Char) : List Char → Option (List Char)
  | c :: rest => if c = mark then some rest else none
  | [] => none

/-- The rest of a text after an offset of any size: sign, hours and minutes. -/
def afterOffset? : List Char → Option (List Char)
  | sign :: h1 :: h2 :: rest =>
      match rest.dropWhile fun c => c = ':' || Text.isBlank c with
      | m1 :: m2 :: rest =>
          if (sign = '+' ∨ sign = '-' ∨ sign.toNat = 0x2212) ∧ h1.isDigit ∧ h2.isDigit ∧
              m1.isDigit ∧ m1 < '6' ∧ m2.isDigit then some rest
          else none
      | _ => none
  | _ => none

/-- Whether a text is a date and a time as a table may hold them. Seconds and what follows them may
be missing, and blanks may stand before numbers and before the offset. -/
def isDateTime (text : List Char) : Bool := Option.isSome do
  let (year, cs) ← readYear text
  let cs ← readChar '-' cs
  let (month, cs) ← readNumber 2 12 cs
  let cs ← readChar '-' cs
  let (day, cs) ← readNumber 2 31 cs
  guard (firstYear ≤ year ∧ year ≤ lastYear)
  guard (1 ≤ month ∧ 1 ≤ day ∧ day ≤ daysInMonth year month)
  let (_, cs) ← readNumber 2 23 ((readChar 'T' cs).getD cs)
  let cs ← readChar ':' cs
  let (_, cs) ← readNumber 2 59 cs
  let cs ← match cs with
    | ':' :: cs => do
        let (_, cs) ← readNumber 2 60 cs
        (readFraction cs).map Prod.snd
    | cs => some cs
  guard (cs = [] ∨ cs = ['Z'] ∨ afterOffset? (trimStart cs) = some [])

/-- Whether a text has the form of RFC 3339, where each number has its width and small letters may
stand for `T` and `Z`. -/
def hasWidths (text : List Char) : Bool :=
  let fits (form cs : List Char) : Bool := form.length = cs.length &&
    (form.zip cs).all fun (f, c) =>
      if f = '0' then c.isDigit else if f = 'T' then c = 'T' || c = 't' || c = ' ' else c = f
  let zone := match text.drop 19 with
    | '.' :: rest => rest.dropWhile Char.isDigit
    | rest => rest
  fits "0000-00-00T00:00:00".toList (text.take 19) &&
    (zone = ['Z'] || zone = ['z'] ||
      (fits "00:00".toList (zone.drop 1) && natural ((zone.drop 1).take 2) < 24))

/-- Whether a table reads a point in time from a text. -/
def isStored (text : String) : Bool :=
  let cs := text.toList
  isDateTime cs || (hasWidths cs && isDateTime (cs.map Char.toUpper))

/-- Whether a number of days, `num / den` since noon of the first day of the Julian period, is a
point in time. -/
def isJulian (num : Int) (den : Nat) : Bool :=
  isKnown (Int.tdiv (num * 86400 - den * 210866760000) den)

/-! ## Writing -/

/-- A number with at least so many digits. -/
def padded (width n : Nat) : String :=
  let digits := Nat.toDigits 10 n
  String.ofList (List.replicate (width - digits.length) '0' ++ digits)

/-- A year: four digits, and a sign where they do not suffice. -/
def yearText (year : Int) : String :=
  if 0 ≤ year ∧ year ≤ 9999 then padded 4 year.toNat
  else (if year < 0 then "-" else "+") ++ padded 4 year.natAbs

/-- The decimals of a second in groups of three. -/
def fractionText (nanos : Nat) : String :=
  if nanos = 0 then ""
  else if nanos % 1000000 = 0 then "." ++ padded 3 (nanos / 1000000)
  else if nanos % 1000 = 0 then "." ++ padded 6 (nanos / 1000)
  else "." ++ padded 9 nanos

/-- A point in time in UTC. -/
def text (t : Timestamp) : String :=
  let (year, month, day) := dateOfDays (t.seconds / 86400)
  let second := (t.seconds % 86400).toNat
  let leap := t.nanos / 1000000000
  s!"{yearText year}-{padded 2 month}-{padded 2 day}T{padded 2 (second / 3600)}:" ++
    s!"{padded 2 (second / 60 % 60)}:{padded 2 (second % 60 + leap)}" ++
    fractionText (t.nanos % 1000000000) ++ "Z"

end Timestamp
end ImageryJobs
