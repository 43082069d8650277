import ImageryJobs.Json.Basic
import ImageryJobs.Text.Blank

/-!
What a finished task leaves.
-/

namespace ImageryJobs

/-- What a finished task leaves. -/
structure TaskOutcome where
  /-- The image that ran. -/
  image : String
  /-- Whether the image was there already. -/
  imageReused : Bool
  /-- What the build wrote, if the image was built for this task. -/
  buildLogs : Option String
  /-- What the container wrote. -/
  logs : Option String
  /-- Metrics by pod, then series. -/
  metrics : Option Json
  deriving DecidableEq

/-- The logs of the build and then those of the container, in one text. -/
def TaskOutcome.allLogs (o : TaskOutcome) : Option String :=
  match o.buildLogs, o.logs with
  | some build, some run => some (Text.trimEnd build ++ "\n" ++ run)
  | some build, none => some build
  | none, run => run

end ImageryJobs
