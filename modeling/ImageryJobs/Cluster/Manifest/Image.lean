import ImageryJobs.Cluster.Manifest.Basic

/-!
Manifests of image streams and builds.
-/

namespace ImageryJobs.Manifest

open Json (memberIf)

/-- A tag of an image stream. -/
structure TagReference where
  name : String
  deriving DecidableEq

namespace TagReference

def schema : Json.Schema TagReference :=
  .record ["name"] fun f => do
    return {
      name := ← f.required "name" .string }

def toJson (x : TagReference) : Json :=
  .mk <| [("name", .string x.name)]

end TagReference

/-- The tags that a stream follows. -/
structure ImageStreamSpec where
  tags : List TagReference
  deriving DecidableEq

namespace ImageStreamSpec

def schema : Json.Schema ImageStreamSpec :=
  .record ["tags"] fun f => do
    return {
      tags := ← f.required "tags" (.list TagReference.schema) }

def toJson (x : ImageStreamSpec) : Json :=
  .mk <| [("tags", .ofList x.tags TagReference.toJson)]

end ImageStreamSpec

/-- The images of one process. -/
structure ImageStream where
  apiVersion : String
  kind : String
  metadata : ObjectMeta
  spec : ImageStreamSpec
  deriving DecidableEq

namespace ImageStream

def schema : Json.Schema ImageStream :=
  .record ["apiVersion", "kind", "metadata", "spec"] fun f => do
    return {
      apiVersion := ← f.required "apiVersion" .string
      kind := ← f.required "kind" .string
      metadata := ← f.required "metadata" ObjectMeta.schema
      spec := ← f.required "spec" ImageStreamSpec.schema }

def toJson (x : ImageStream) : Json :=
  .mk <| [("apiVersion", .string x.apiVersion)] ++
    [("kind", .string x.kind)] ++
    [("metadata", x.metadata.toJson)] ++
    [("spec", x.spec.toJson)]

end ImageStream

/-- A repository at a branch, tag or commit. -/
structure GitSource where
  uri : String
  gitRef : String
  deriving DecidableEq

namespace GitSource

def schema : Json.Schema GitSource :=
  .record ["uri", "ref"] fun f => do
    return {
      uri := ← f.required "uri" .string
      gitRef := ← f.required "ref" .string }

def toJson (x : GitSource) : Json :=
  .mk <| [("uri", .string x.uri)] ++
    [("ref", .string x.gitRef)]

end GitSource

/-- Where the sources of a build come from. -/
structure BuildInput where
  type : String
  git : GitSource
  contextDir : Option String
  deriving DecidableEq

namespace BuildInput

def schema : Json.Schema BuildInput :=
  .record ["type", "git", "contextDir"] fun f => do
    return {
      type := ← f.required "type" .string
      git := ← f.required "git" GitSource.schema
      contextDir := ← f.withDefault "contextDir" none (.option .string) }

def toJson (x : BuildInput) : Json :=
  .mk <| [("type", .string x.type)] ++
    [("git", x.git.toJson)] ++
    memberIf "contextDir" x.contextDir .string

end BuildInput

/-- The path of the file that says how to build. -/
structure DockerStrategy where
  dockerfilePath : String
  deriving DecidableEq

namespace DockerStrategy

def schema : Json.Schema DockerStrategy :=
  .record ["dockerfilePath"] fun f => do
    return {
      dockerfilePath := ← f.required "dockerfilePath" .string }

def toJson (x : DockerStrategy) : Json :=
  .mk <| [("dockerfilePath", .string x.dockerfilePath)]

end DockerStrategy

/-- How an image is built. -/
structure BuildStrategy where
  type : String
  dockerStrategy : DockerStrategy
  deriving DecidableEq

namespace BuildStrategy

def schema : Json.Schema BuildStrategy :=
  .record ["type", "dockerStrategy"] fun f => do
    return {
      type := ← f.required "type" .string
      dockerStrategy := ← f.required "dockerStrategy" DockerStrategy.schema }

def toJson (x : BuildStrategy) : Json :=
  .mk <| [("type", .string x.type)] ++
    [("dockerStrategy", x.dockerStrategy.toJson)]

end BuildStrategy

/-- Another object. -/
structure ObjectReference where
  kind : String
  name : String
  deriving DecidableEq

namespace ObjectReference

def schema : Json.Schema ObjectReference :=
  .record ["kind", "name"] fun f => do
    return {
      kind := ← f.required "kind" .string
      name := ← f.required "name" .string }

def toJson (x : ObjectReference) : Json :=
  .mk <| [("kind", .string x.kind)] ++
    [("name", .string x.name)]

end ObjectReference

/-- Where an image is pushed. -/
structure BuildOutput where
  target : ObjectReference
  deriving DecidableEq

namespace BuildOutput

def schema : Json.Schema BuildOutput :=
  .record ["to"] fun f => do
    return {
      target := ← f.required "to" ObjectReference.schema }

def toJson (x : BuildOutput) : Json :=
  .mk <| [("to", x.target.toJson)]

end BuildOutput

/-- Source, strategy and target of a build. -/
structure BuildSpec where
  source : BuildInput
  strategy : BuildStrategy
  output : BuildOutput
  deriving DecidableEq

namespace BuildSpec

def schema : Json.Schema BuildSpec :=
  .record ["source", "strategy", "output"] fun f => do
    return {
      source := ← f.required "source" BuildInput.schema
      strategy := ← f.required "strategy" BuildStrategy.schema
      output := ← f.required "output" BuildOutput.schema }

def toJson (x : BuildSpec) : Json :=
  .mk <| [("source", x.source.toJson)] ++
    [("strategy", x.strategy.toJson)] ++
    [("output", x.output.toJson)]

end BuildSpec

/-- A build of an image. -/
structure Build where
  apiVersion : String
  kind : String
  metadata : ObjectMeta
  spec : BuildSpec
  deriving DecidableEq

namespace Build

def schema : Json.Schema Build :=
  .record ["apiVersion", "kind", "metadata", "spec"] fun f => do
    return {
      apiVersion := ← f.required "apiVersion" .string
      kind := ← f.required "kind" .string
      metadata := ← f.required "metadata" ObjectMeta.schema
      spec := ← f.required "spec" BuildSpec.schema }

def toJson (x : Build) : Json :=
  .mk <| [("apiVersion", .string x.apiVersion)] ++
    [("kind", .string x.kind)] ++
    [("metadata", x.metadata.toJson)] ++
    [("spec", x.spec.toJson)]

end Build

end ImageryJobs.Manifest
