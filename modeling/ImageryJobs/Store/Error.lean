/-!
Why a store operation fails.
-/

namespace ImageryJobs

/-- Why a store operation fails. -/
inductive StoreError where
  /-- The database refused the operation or cannot be reached. -/
  | database (detail : String)
  /-- The tables cannot be set up. -/
  | migration (detail : String)
  /-- A stored record cannot be read. -/
  | corrupt (id reason : String)
  deriving DecidableEq

def StoreError.message : StoreError → String
  | .database detail => s!"Database error: {detail}"
  | .migration detail => s!"Migration error: {detail}"
  | .corrupt id reason => s!"Corrupt record '{id}': {reason}"

/-- The store cannot be reached. -/
def StoreError.unreachable : StoreError := .database "no store is open"

/-- The store cannot be written. -/
def StoreError.readOnly : StoreError := .database "the store cannot be written"

/-- The name of the cause. -/
def StoreError.kind : StoreError → String
  | .database _ => "Database"
  | .migration _ => "Migrate"
  | .corrupt .. => "Corrupt"

end ImageryJobs
