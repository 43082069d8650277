import ImageryJobs.Text.CaseMap
import ImageryJobs.Unicode.Property

/-!
The lower case of texts. It is that of each character, except that a capital sigma goes to the small
form for the end of a word where it ends one.
-/

namespace ImageryJobs.Text

def capitalSigma : Char := Char.ofNat 0x3A3

def finalSigma : Char := Char.ofNat 0x3C2

/-- Whether the first of some characters that has a say in case is a cased one. -/
def meetsCased (cs : List Char) : Bool :=
  match cs.find? fun c => !Unicode.caseIgnorable.contains c.toNat with
  | some c => Unicode.cased.contains c.toNat
  | none => false

/-- The lower case of a character by what stands before it, the last first, and what follows. -/
def lowerWithin (before after : List Char) (c : Char) : List Char :=
  if c = capitalSigma ∧ meetsCased before ∧ ¬ meetsCased after then [finalSigma] else lowerChar c

def lowerFrom (before : List Char) : List Char → List Char
  | [] => []
  | c :: after => lowerWithin before after c ++ lowerFrom (c :: before) after

/-- The lower case of a text. -/
def lowercase (s : String) : String := String.ofList (lowerFrom [] s.toList)

end ImageryJobs.Text
