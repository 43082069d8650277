import ImageryJobs.Cluster.Kind
import ImageryJobs.Hash.Sha256
import ImageryJobs.Json.Printer
import ImageryJobs.Text.Lowercase
import ImageryJobs.Text.Percent

/-!
Names, labels and selectors of cluster objects.
-/

namespace ImageryJobs

/-- The labels that tell what an object belongs to. -/
def jobLabel : String := "eoflow.io/job-id"
def taskLabel : String := "eoflow.io/task-id"
def processLabel : String := "eoflow.io/process-id"

/-- The labels that the cluster puts on the pods of builds and batch jobs. -/
def buildPodLabel : String := "openshift.io/build.name"
def batchPodLabel : String := "job-name"

/-- The first twenty hexadecimal digits of the hash of a text. -/
def shortHash (text : String) : String :=
  String.ofList <| ((Hash.Sha256.hash (Text.octets text)).take 10).flatMap fun b =>
    [Json.hexDigit (b.toNat / 16), Json.hexDigit (b.toNat % 16)]

/-- The name of a task's object of a kind. The same task always has the same names. -/
def objectName (kind : ResourceKind) (jobId taskId : String) : String :=
  kind.tag ++ "-" ++ shortHash (jobId ++ ":" ++ taskId ++ ":" ++ kind.name)

/-- Whether a character may stand in a label: an ASCII letter or digit. -/
def isLabelChar (c : Char) : Bool := c.toNat < 128 && c.isAlphanum

/-- The longest label. -/
def labelLimit : Nat := 63

/-- Cuts dashes at both ends. -/
def trimDashes (cs : List Char) : List Char :=
  ((cs.dropWhile (· = '-')).reverse.dropWhile (· = '-')).reverse

/-- A label of the domain name system made from any text: lower case, dashes for all but letters
and digits, cut to the longest length, no dash at the ends. -/
def sanitizeName (raw : String) : String :=
  let mapped := (Text.lowercase raw).toList.map fun c => if isLabelChar c then c else '-'
  String.ofList (trimDashes (mapped.take labelLimit))

/-- A label selector as a query has it. -/
def encodeSelector (selector : String) : String := Text.Percent.encode selector

/-- The selector for one value of a label. -/
def selectorOf (label value : String) : String := label ++ "=" ++ value

/-- The path that lists the objects of a collection under a selector. -/
def listPath (collection selector : String) : String :=
  collection ++ "?labelSelector=" ++ encodeSelector selector

/-- Where a task's output is mounted. -/
def dataPath (jobId taskId : String) : String := "/job_data/" ++ jobId ++ "/" ++ taskId

end ImageryJobs
