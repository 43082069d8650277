/-!
The directories around a scenario, by the names on the way from the root.
-/

namespace ImageryJobs.Simulation.Directory

/-- Where relative names start. -/
def working : List String := ["work"]

/-- Where the files of a scenario are. -/
def scenario : List String := ["tmp", "scenario"]

/-- The directories in which there can be files. -/
def all : List (List String) := [["tmp"], scenario, working]

/-- Whether there can be a file at the end of a way. -/
def canHold (path : List String) : Bool := all.contains path.dropLast && !all.contains path

/-- The full name of a file of a scenario. -/
def nameIn (directory : List String) (name : String) : String :=
  "/" ++ "/".intercalate directory ++ "/" ++ name

end ImageryJobs.Simulation.Directory
