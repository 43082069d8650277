/-!
Finding texts in texts.
-/

namespace ImageryJobs.Text

/-- What follows the first occurrence of a part. -/
def afterFirst? (part : List Char) : List Char → Option (List Char)
  | [] => if part.isEmpty then some [] else none
  | c :: rest =>
      if part.isPrefixOf (c :: rest) then some ((c :: rest).drop part.length)
      else afterFirst? part rest

/-- Whether a text contains a part. -/
def contains (part text : String) : Bool := (afterFirst? part.toList text.toList).isSome

/-- Splits a text at the first occurrence of a character. -/
def splitAt? (c : Char) (cs : List Char) : Option (List Char × List Char) :=
  match cs.dropWhile (· ≠ c) with
  | [] => none
  | _ :: rest => some (cs.takeWhile (· ≠ c), rest)

/-- What follows a beginning. -/
def after? (start : String) (cs : List Char) : Option (List Char) :=
  if start.toList.isPrefixOf cs then some (cs.drop start.toList.length) else none

/-- What comes before an ending. -/
def before? (ending : String) (cs : List Char) : Option (List Char) :=
  if ending.toList.isSuffixOf cs then some (cs.take (cs.length - ending.toList.length)) else none

end ImageryJobs.Text
