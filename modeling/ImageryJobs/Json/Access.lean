import ImageryJobs.Json.Printer

/-!
Members of loosely written objects: what is missing or of another type gives a default.
-/

namespace ImageryJobs.Json

/-- The value of a member; null counts as absent. -/
def presentAt? (j : Json) (key : String) : Option Json := (j.get? key).filter fun v => !v.isNull

/-- The value of a member, null where there is none. -/
def memberAt (j : Json) (key : String) : Json := (j.get? key).getD .null

def stringAt? (j : Json) (key : String) : Option String := (j.get? key).bind string?

def stringAt (j : Json) (key : String) : String := (j.stringAt? key).getD ""

def itemsAt (j : Json) (key : String) : List Json := ((j.get? key).bind items?).getD []

def stringsAt (j : Json) (key : String) : List String := (j.itemsAt key).filterMap string?

def membersAt (j : Json) (key : String) : Members := ((j.get? key).bind members?).getD ∅

def natAt (j : Json) (key : String) (default : Nat) : Nat := ((j.get? key).bind nat?).getD default

def flagAt (j : Json) (key : String) : Bool := j.memberAt key = .bool true

/-- The natural numbers of an array. -/
def nats (j : Json) : List Nat := (j.items?.getD []).filterMap nat?

/-- The text of a document: a string is the text itself, any other value is written out. -/
def documentText : Json → String
  | .string text => text
  | j => j.render

end ImageryJobs.Json
