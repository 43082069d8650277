import ImageryJobs.Cluster.Manifest.Image
import ImageryJobs.Cluster.Template.Basic

/-!
The image stream of a process, which all its tasks share, and the builds that fill it.
-/

namespace ImageryJobs

/-- The tag that every build pushes to. -/
def latestTag : String := "latest"

/-- The image stream of a process. -/
structure ImageStreamTemplate where
  metadata : Manifest.ObjectMeta
  deriving DecidableEq

namespace ImageStreamTemplate

def forProcess (processId : String) : ImageStreamTemplate :=
  ⟨(Manifest.ObjectMeta.managed (sanitizeName processId)).withLabel processLabel
    (sanitizeName processId)⟩

def name (t : ImageStreamTemplate) : String := t.metadata.name

def manifest (t : ImageStreamTemplate) : Manifest.ImageStream where
  apiVersion := "image.openshift.io/v1"
  kind := "ImageStream"
  metadata := t.metadata
  spec := ⟨[⟨latestTag⟩]⟩

/-- The repository that a stream was given; an empty one counts as none. -/
def repository? (stream : Json) : Option String :=
  (Template.textAt stream ["status", "dockerImageRepository"]).filter (· ≠ "")

/-- Whether the latest tag has an image. -/
def isResolved (stream : Json) : Bool :=
  (((stream.path? ["status", "tags"]).bind Json.items?).getD []).any fun tag =>
    Template.textAt tag ["tag"] = some latestTag &&
      !(((tag.get? "items").bind Json.items?).getD []).isEmpty

/-- The image that a repository's latest tag names. -/
def imageOf (repository : String) : String := repository ++ ":" ++ latestTag

def readiness (stream : Json) : Readiness :=
  if (repository? stream).isSome then .ready else .pending

def template (t : ImageStreamTemplate) : Template where
  kind := .imageStream
  name := t.name
  document := t.manifest.toJson
  readiness := fun stream _ => readiness stream
  podSelector := none
  shared := true

end ImageStreamTemplate

/-- Where the image of a process is built from. -/
structure BuildSource where
  gitUri : String
  /-- A branch, tag or commit. -/
  gitRef : String
  /-- The directory that holds the build file. -/
  contextDir : Option String
  deriving DecidableEq

namespace BuildSource

def defaultRef : String := "master"

def schema : Json.Schema BuildSource :=
  .record ["git_uri", "git_ref", "context_dir"] fun f => do
    return {
      gitUri := ← f.required "git_uri" .string
      gitRef := ← f.withDefault "git_ref" defaultRef .string
      contextDir := ← f.withDefault "context_dir" none (.option .string) }

def members (s : BuildSource) : List (String × Json) :=
  [("git_uri", .string s.gitUri), ("git_ref", .string s.gitRef)] ++
    Json.memberIf "context_dir" s.contextDir .string

def toJson (s : BuildSource) : Json := .mk s.members

end BuildSource

/-- A build that pushes to the latest tag of an image stream. -/
structure BuildTemplate where
  metadata : Manifest.ObjectMeta
  imageStream : String
  source : BuildSource
  deriving DecidableEq

namespace BuildTemplate

def forTask (jobId taskId processId : String) (stream : ImageStreamTemplate)
    (source : BuildSource) : BuildTemplate :=
  ⟨(Manifest.ObjectMeta.forTask .build jobId taskId).withLabel processLabel
    (sanitizeName processId), stream.name, source⟩

def name (t : BuildTemplate) : String := t.metadata.name

def manifest (t : BuildTemplate) : Manifest.Build where
  apiVersion := "build.openshift.io/v1"
  kind := "Build"
  metadata := t.metadata
  spec := {
    source := ⟨"Git", ⟨t.source.gitUri, t.source.gitRef⟩, t.source.contextDir⟩
    strategy := ⟨"Docker", ⟨"Dockerfile"⟩⟩
    output := ⟨⟨"ImageStreamTag", t.imageStream ++ ":" ++ latestTag⟩⟩ }

/-- What the build itself tells, without its pod. -/
def ownReadiness (build : Json) : Readiness :=
  let failed (phase : String) : Readiness :=
    .failed ((Template.textAt build ["status", "message"]).getD phase)
  match Template.phaseOf build with
  | some "Complete" => .ready
  | some "Failed" => failed "Failed"
  | some "Error" => failed "Error"
  | some "Cancelled" => failed "Cancelled"
  | some "Running" => .running
  | _ => .pending

/-- The pod decides where it has begun. -/
def readiness (build : Json) (pod : Option Json) : Readiness :=
  match pod with
  | none => ownReadiness build
  | some pod =>
      match Template.phaseOf pod with
      | some "Succeeded" => .ready
      | some "Failed" =>
          .failed ((Template.textAt pod ["status", "reason"]).getD "build pod failed")
      | some "Running" => .running
      | _ => ownReadiness build

def template (t : BuildTemplate) : Template where
  kind := .build
  name := t.name
  document := t.manifest.toJson
  readiness := readiness
  podSelector := some (selectorOf buildPodLabel t.name)
  shared := false

/-- Whether a listed build is over. -/
def isOver (build : Json) : Bool :=
  match Template.phaseOf build with
  | some "Complete" | some "Failed" | some "Error" | some "Cancelled" => true
  | _ => false

end BuildTemplate
end ImageryJobs
