import ImageryJobs.Text.Percent
import ImageryJobs.Text.Search

/-!
Addresses on the web. An address names a server and, by a path of segments, something on it. What
is written in another way and means the same gives the same address: backslashes for slashes, dot
segments, blanks around it, line breaks and tabs anywhere.
-/

namespace ImageryJobs.Http

/-- An address of something on a server. Nothing in it is escaped that was not written so. -/
structure Address where
  scheme : String
  /-- The server: its name, and the port behind it. -/
  authority : String
  /-- What stands behind the slashes of the path. -/
  segments : List String
  query : Option String
  /-- A place inside the thing, which a server is never asked for. -/
  fragment : Option String
  deriving DecidableEq

namespace Address

/-! ## Escapes -/

/-- Whether an octet is escaped wherever it stands: controls, blanks and all beyond ASCII. -/
def escapedAnywhere (n : Nat) : Bool := n ≤ 32 || 127 ≤ n

/-- Characters that are escaped in a path. -/
def escapedInPath : List Char := "\"#<>?\x60\x7b\x7d".toList

/-- Characters that are escaped in a query. -/
def escapedInQuery : List Char := "\"#<>'".toList

/-- Characters that are escaped in a fragment. -/
def escapedInFragment : List Char := "\"<>\x60".toList

/-- Escapes a text. An escape that it has already is kept. -/
def escape (escaped : List Char) (text : String) : String :=
  String.ofList <| (Text.octets text).flatMap fun b =>
    let c := Char.ofNat b.toNat
    if escapedAnywhere b.toNat || escaped.contains c then
      ['%', Text.Percent.hexDigit (b.toNat / 16), Text.Percent.hexDigit (b.toNat % 16)]
    else [c]

/-! ## Dot segments -/

/-- Reads a dot, which may be escaped. -/
def afterDot? : List Char → Option (List Char)
  | '.' :: rest => some rest
  | '%' :: '2' :: e :: rest => if e = 'e' ∨ e = 'E' then some rest else none
  | _ => none

/-- Whether a segment means the place it is in. -/
def isHere (segment : List Char) : Bool := afterDot? segment = some []

/-- Whether a segment means the place above. -/
def isAbove (segment : List Char) : Bool := (afterDot? segment).any isHere

/-- Whether a segment names a drive; nothing is above a drive. -/
def isDrive : List Char → Bool
  | [letter, mark] => letter.isAlpha && (mark = ':' || mark = '|')
  | _ => false

/-- The segments above the last one, which comes first in the list. -/
def parent : List (List Char) → List (List Char)
  | [] => []
  | last :: above => if isDrive last then last :: above else above

/-- Follows dot segments from a place, whose last segment comes first. A dot segment at the end
leaves an empty one. -/
def follow (place : List (List Char)) : List (List Char) → List (List Char)
  | [] => place.reverse
  | [last] =>
      (if isAbove last then [] :: parent place
        else if isHere last then [] :: place
        else last :: place).reverse
  | next :: rest =>
      follow (if isAbove next then parent place else if isHere next then place else next :: place)
        rest

/-! ## Reading and writing -/

/-- What does not count in an address: controls and blanks around it, line breaks and tabs. -/
def essential (url : String) : List Char :=
  let isBlank (c : Char) : Bool := c.toNat ≤ 32
  let inner := ((url.toList.dropWhile isBlank).reverse.dropWhile isBlank).reverse
  inner.filter fun c => !(c = '\t' || c = '\n' || c = '\r')

/-- Splits a text before the first of some characters. -/
def cutAt (ends : List Char) (cs : List Char) : List Char × List Char :=
  (cs.takeWhile fun c => !ends.contains c, cs.dropWhile fun c => !ends.contains c)

/-- The segments of a path as it is written. -/
def segmentsOf (path : List Char) : List (List Char) :=
  let slashed := path.map fun c => if c = '\\' then '/' else c
  follow [] ((if slashed.head? = some '/' then slashed.drop 1 else slashed).splitOn '/')

/-- Reads an address of the web. -/
def read? (url : String) : Option Address := do
  let cs := essential url
  let (scheme, rest) ← ["http", "https"].findSome? fun scheme =>
    (Text.after? (scheme ++ "://") cs).map fun rest => (scheme, rest)
  let (authority, rest) := cutAt ['/', '\\', '?', '#'] rest
  let (path, rest) := cutAt ['?', '#'] rest
  let (query, fragment) := cutAt ['#'] rest
  let marked (cs : List Char) : Option String :=
    if cs = [] then none else some (String.ofList (cs.drop 1))
  return {
    scheme
    authority := String.ofList authority
    segments := (segmentsOf path).map String.ofList
    query := marked query
    fragment := marked fragment }

/-- What a server is asked for: path and query, escaped. -/
def target (a : Address) : String :=
  "/" ++ "/".intercalate (a.segments.map (escape escapedInPath)) ++
    (a.query.elim "" fun query => "?" ++ escape escapedInQuery query)

/-- An address written out. -/
def text (a : Address) : String :=
  a.scheme ++ "://" ++ a.authority ++ a.target ++
    (a.fragment.elim "" fun place => "#" ++ escape escapedInFragment place)

/-- The length up to which an address can be sent. -/
def lengthLimit : Nat := 65534

/-- Whether an address can be sent. -/
def isSendable (a : Address) : Bool := a.text.length ≤ lengthLimit

end Address
end ImageryJobs.Http
