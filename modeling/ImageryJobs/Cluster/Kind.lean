/-!
Kinds of cluster objects and the paths under which the cluster serves them.
-/

namespace ImageryJobs

/-- A kind of cluster object. -/
inductive ResourceKind where
  /-- A claim to a volume that holds the output of one task. -/
  | volume
  /-- The images of one process. -/
  | imageStream
  /-- A build of an image. -/
  | build
  /-- A config map with the arguments of a task. -/
  | config
  /-- A batch job that runs one task. -/
  | batchJob
  deriving DecidableEq

namespace ResourceKind

def all : List ResourceKind := [.volume, .imageStream, .build, .config, .batchJob]

def name : ResourceKind → String
  | .volume => "volume"
  | .imageStream => "imagestream"
  | .build => "build"
  | .config => "config"
  | .batchJob => "batchjob"

def ofName? (name : String) : Option ResourceKind := all.find? (·.name = name)

/-- What the names of objects of the kind begin with. -/
def tag : ResourceKind → String
  | .volume => "vol"
  | .imageStream => "is"
  | .build => "build"
  | .config => "cfg"
  | .batchJob => "job"

/-- The group of the interface that serves the kind. -/
def group : ResourceKind → String
  | .volume | .config => "/api/v1"
  | .imageStream => "/apis/image.openshift.io/v1"
  | .build => "/apis/build.openshift.io/v1"
  | .batchJob => "/apis/batch/v1"

/-- The last part of the collection's path. -/
def plural : ResourceKind → String
  | .volume => "persistentvolumeclaims"
  | .imageStream => "imagestreams"
  | .build => "builds"
  | .config => "configmaps"
  | .batchJob => "jobs"

/-- The path of the collection in a namespace. -/
def collectionPath (kind : ResourceKind) (ns : String) : String :=
  kind.group ++ "/namespaces/" ++ ns ++ "/" ++ kind.plural

/-- The path of one object. -/
def instancePath (kind : ResourceKind) (ns name : String) : String :=
  kind.collectionPath ns ++ "/" ++ name

end ResourceKind

/-- The path of the pods in a namespace. -/
def podsPath (ns : String) : String := "/api/v1/namespaces/" ++ ns ++ "/pods"

def podPath (ns name : String) : String := podsPath ns ++ "/" ++ name

def podLogPath (ns name : String) : String := podPath ns name ++ "/log"

end ImageryJobs
