import ImageryJobs.Cluster.Manifest.Volume
import ImageryJobs.Cluster.Template.Basic

/-!
A config map with the arguments of a task and the paths of its inputs. It is ready once it holds
the files that were sent.
-/

namespace ImageryJobs

/-- Files for the container of a task. -/
structure ConfigTemplate where
  metadata : Manifest.ObjectMeta
  data : Dict String String
  deriving DecidableEq

namespace ConfigTemplate

/-- The file that holds the arguments. -/
def configFile : String := "config.json"

/-- The file that lists the mount paths of the inputs. -/
def inputMountsFile : String := "input_mounts.json"

def forTask (jobId taskId : String) (args : Members) (inputMounts : List String) :
    ConfigTemplate where
  metadata := .forTask .config jobId taskId
  data := Dict.ofList
    [(configFile, (Json.ofMembers args).render),
      (inputMountsFile, (Json.ofList inputMounts .string).render)]

def manifest (t : ConfigTemplate) : Manifest.ConfigMap where
  apiVersion := "v1"
  kind := "ConfigMap"
  metadata := t.metadata
  data := t.data

def readiness (t : ConfigTemplate) (object : Json) : Readiness :=
  if t.data.entries.all fun e => Template.textAt object ["data", e.1] = some e.2 then .ready
  else .pending

def template (t : ConfigTemplate) : Template where
  kind := .config
  name := t.metadata.name
  document := t.manifest.toJson
  readiness := fun object _ => t.readiness object
  podSelector := none
  shared := false

end ConfigTemplate
end ImageryJobs
