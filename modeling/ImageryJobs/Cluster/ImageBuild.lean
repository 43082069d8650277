import ImageryJobs.Cluster.Resource
import ImageryJobs.Cluster.Template.Image

/-!
The image of a process: an image that exists is taken as it is, an image that another task builds
is waited for, and only else is it built. The stream stays, the build is removed when it is done.
-/

namespace ImageryJobs

/-- The image stream of a process and the build that fills it. -/
structure ImageBuild where
  stream : Resource
  build : Resource

/-- An image to run. -/
structure BuiltImage where
  image : String
  /-- What the build wrote, if there was one. -/
  logs : Option String
  /-- Whether the image was there already. -/
  reused : Bool
  deriving DecidableEq

/-- Work on a stream and its build. -/
abbrev Building (ε : Type) := ExceptT ε (StateT ImageBuild ClusterScript)

namespace ImageBuild

def ofTemplates (stream : ImageStreamTemplate) (build : BuildTemplate) : ImageBuild :=
  ⟨.ofTemplate stream.template, .ofTemplate build.template⟩

/-- Work on the stream alone. -/
def onStream (work : Managing ε α) : Building ε α :=
  ExceptT.mk do
    let b ← get
    let (result, stream) ← (work.run.run b.stream : ClusterScript _)
    set { b with stream }
    return result

/-- Work on the build alone. -/
def onBuild (work : Managing ε α) : Building ε α :=
  ExceptT.mk do
    let b ← get
    let (result, build) ← (work.run.run b.build : ClusterScript _)
    set { b with build }
    return result

/-- The image that a stream has now: that of its latest tag, if the tag has one. -/
def imageIn (stream : Json) : Option String :=
  if ImageStreamTemplate.isResolved stream then
    (ImageStreamTemplate.repository? stream).map ImageStreamTemplate.imageOf
  else none

/-- Looks for an image that exists. -/
def existingImage (ns : String) (b : ImageBuild) :
    ExceptT LifecycleError ClusterScript (Option String) :=
  (do
    let stream ← b.stream.fetch ns
    return stream.bind imageIn : Calling (Option String)).adapt .cluster

/-- The names of builds of other tasks that still fill the stream. -/
def peers (ns : String) (b : ImageBuild) : ExceptT LifecycleError ClusterScript (List String) :=
  (do
    let builds ← Calling.list (ResourceKind.build.collectionPath ns)
      (selectorOf processLabel b.stream.name)
    let running := builds.filter fun build => !BuildTemplate.isOver build
    return (running.filterMap Template.nameOf).filter (· ≠ b.build.name) :
      Calling (List String)).adapt .cluster

/-- One look at the builds of other tasks: the image once there is one, and nothing more to wait
for if no other task builds. The builds are listed first, because one that ends in between has
filled the stream by then. -/
def lookForPeers (ns : String) (b : ImageBuild) :
    ExceptT LifecycleError ClusterScript (Option (Option String)) := do
  let peers ← b.peers ns
  match ← b.existingImage ns with
  | some image => return some (some image)
  | none => return if peers.isEmpty then some none else none

/-- Waits while another task builds the image. -/
def awaitPeers (ns : String) (w : Watch) (b : ImageBuild) :
    ExceptT LifecycleError ClusterScript (Option String) :=
  w.untilDecided (b.lookForPeers ns) (throw (.cancelled .imageStream b.stream.name))
    (throw (.watchTimeout .imageStream b.stream.name w.timeout))

/-- What the build has written; nothing if it cannot be had. -/
def logs (ns : String) : StateT ImageBuild ClusterScript (Option String) := do
  match ← (onBuild (Resource.logs ns)).run with
  | .ok logs => return logs
  | .error _ => return none

/-- Removes the build. The stream stays. -/
def cleanup (ns : String) : Building LifecycleError Unit := onBuild (Resource.delete ns)

/-- Builds the image for a stream that the cluster has given a repository. -/
def buildFor (ns : String) (w : Watch) : Building LifecycleError BuiltImage := do
  let b ← get
  let some repository := b.stream.observed.bind ImageStreamTemplate.repository?
    | throw (.missingField .imageStream b.stream.name "status.dockerImageRepository")
  onBuild (Resource.create ns true w)
  let logs ← (logs ns : StateT ImageBuild ClusterScript _)
  cleanup ns
  return ⟨ImageStreamTemplate.imageOf repository, logs, false⟩

/-- Takes an image that exists or that another task builds, or else builds it. A build that fails
stays, so that its logs can be read. -/
def run (ns : String) (w : Watch) : Building LifecycleError BuiltImage := do
  match ← ExceptT.mk (((← get).existingImage ns).run : ClusterScript _) with
  | some image => return ⟨image, none, true⟩
  | none =>
      onStream (Resource.create ns true w)
      match ← ExceptT.mk (((← get).awaitPeers ns w).run : ClusterScript _) with
      | some image => return ⟨image, none, true⟩
      | none => buildFor ns w

end ImageBuild
end ImageryJobs
