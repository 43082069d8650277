import ImageryJobs.Json.Schema

/-!
Manifests: the documents that describe cluster objects. Each type has its schema and its JSON
form; members that hold a default are left out of the form. This module holds what manifests of
every kind share.
-/

namespace ImageryJobs.Manifest

open Json (memberIf)

/-- A map as a member, left out when it is empty. -/
def memberUnlessEmpty (key : String) (d : Dict String String) : List (String × Json) :=
  if d.isEmpty then [] else [(key, .ofDict d .string)]

/-- A list as a member, left out when it is empty. -/
def listUnlessEmpty (key : String) (xs : List α) (f : α → Json) : List (String × Json) :=
  if xs.isEmpty then [] else [(key, .ofList xs f)]

/-- A truth value as a member, left out when it is false. -/
def memberIfTrue (key : String) (b : Bool) : List (String × Json) :=
  if b then [(key, .bool true)] else []

/-- The name and labels of an object. -/
structure ObjectMeta where
  name : String
  labels : Dict String String
  deriving DecidableEq

namespace ObjectMeta

def schema : Json.Schema ObjectMeta :=
  .record ["name", "labels"] fun f => do
    return {
      name := ← f.required "name" .string
      labels := ← f.withDefault "labels" ∅ (.dict .string) }

def toJson (x : ObjectMeta) : Json :=
  .mk <| [("name", .string x.name)] ++
    memberUnlessEmpty "labels" x.labels

end ObjectMeta

/-- Requested amounts and upper bounds. -/
structure ResourceRequirements where
  requests : Dict String String
  limits : Dict String String
  deriving DecidableEq

namespace ResourceRequirements

def schema : Json.Schema ResourceRequirements :=
  .record ["requests", "limits"] fun f => do
    return {
      requests := ← f.withDefault "requests" ∅ (.dict .string)
      limits := ← f.withDefault "limits" ∅ (.dict .string) }

def toJson (x : ResourceRequirements) : Json :=
  .mk <| memberUnlessEmpty "requests" x.requests ++
    memberUnlessEmpty "limits" x.limits

end ResourceRequirements

end ImageryJobs.Manifest
