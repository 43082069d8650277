/-!
Texts as octets of UTF-8, and reading octets that need not be well-formed: every longest run of
octets that begins a character and does not complete it counts as one replacement character.
-/

namespace ImageryJobs.Text

/-- The octets of a text. -/
def octets (s : String) : List UInt8 := s.toUTF8.toList

/-- The text of octets that are well-formed. -/
def ofOctets? (octets : List UInt8) : Option String := String.fromUTF8? ⟨octets.toArray⟩

/-- The character that stands for octets that form none. -/
def replacement : Char := Char.ofNat 0xFFFD

/-- What may follow within a character. -/
structure Pending where
  /-- The octets still missing. -/
  missing : Nat
  /-- The bounds of the next octet. -/
  low : Nat
  high : Nat
  /-- The bits read so far. -/
  code : Nat

/-- What the first octet of a character of several octets promises. -/
def Pending.ofFirst? (b : Nat) : Option Pending :=
  if 0xC2 ≤ b ∧ b ≤ 0xDF then some ⟨1, 0x80, 0xBF, b - 0xC0⟩
  else if b = 0xE0 then some ⟨2, 0xA0, 0xBF, 0⟩
  else if b = 0xED then some ⟨2, 0x80, 0x9F, 0xD⟩
  else if 0xE1 ≤ b ∧ b ≤ 0xEF then some ⟨2, 0x80, 0xBF, b - 0xE0⟩
  else if b = 0xF0 then some ⟨3, 0x90, 0xBF, 0⟩
  else if 0xF1 ≤ b ∧ b ≤ 0xF3 then some ⟨3, 0x80, 0xBF, b - 0xF0⟩
  else if b = 0xF4 then some ⟨3, 0x80, 0x8F, 4⟩
  else none

/-- The characters read, last first, and the character that is being read. -/
structure Lossy where
  chars : List Char
  pending : Option Pending

/-- An octet at the start of a character. -/
def Lossy.enter (chars : List Char) (b : Nat) : Lossy :=
  if b < 0x80 then ⟨Char.ofNat b :: chars, none⟩
  else match Pending.ofFirst? b with
    | some p => ⟨chars, some p⟩
    | none => ⟨replacement :: chars, none⟩

def Lossy.step (s : Lossy) (octet : UInt8) : Lossy :=
  let b := octet.toNat
  match s.pending with
  | none => enter s.chars b
  | some p =>
      if p.low ≤ b ∧ b ≤ p.high then
        let code := p.code * 64 + (b - 0x80)
        if p.missing = 1 then ⟨Char.ofNat code :: s.chars, none⟩
        else ⟨s.chars, some ⟨p.missing - 1, 0x80, 0xBF, code⟩⟩
      else enter (replacement :: s.chars) b

/-- The text of any octets. -/
def ofOctetsLossy (octets : List UInt8) : String :=
  let s := octets.foldl Lossy.step ⟨[], none⟩
  let chars := if s.pending.isSome then replacement :: s.chars else s.chars
  String.ofList chars.reverse

end ImageryJobs.Text
