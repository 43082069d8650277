import ImageryJobs.Dict
import ImageryJobs.Text.Blank
import ImageryJobs.Time.Duration

/-!
How to reach a cluster and how long to wait for it, and reading this from variables of the
environment.
-/

namespace ImageryJobs

/-- Why a configuration cannot be read. -/
inductive ConfigError where
  | missingVariable (name : String)
  | invalidNumber (name : String)
  deriving DecidableEq

def ConfigError.message : ConfigError → String
  | .missingVariable name => s!"Missing required environment variable: {name}"
  | .invalidNumber name => s!"Invalid number in environment variable: {name}"

/-- The name of the cause. -/
def ConfigError.kind : ConfigError → String
  | .missingVariable _ => "MissingEnvVar"
  | .invalidNumber _ => "InvalidNumber"

/-- Variables of the environment. -/
abbrev Variables := Dict String String

namespace Variables

/-- Cuts slashes at the end. -/
def trimSlashes (s : String) : String :=
  String.ofList (s.toList.reverse.dropWhile (· = '/')).reverse

/-- A natural number below `2 ^ 64`; a plus sign may precede it. -/
def natural? (s : String) : Option Nat :=
  let digits : List Char := match s.toList with
    | '+' :: rest => rest
    | cs => cs
  let n : Nat := digits.foldl (fun n c => 10 * n + (c.toNat - 48)) 0
  if digits ≠ [] ∧ digits.all Char.isDigit ∧ n < 18446744073709551616 then some n else none

/-- A number, or a default where the variable is not set. -/
def number (v : Variables) (name : String) (default : Nat) : Except ConfigError Nat :=
  match v.get? name with
  | none => .ok default
  | some text =>
      match natural? text with
      | some n => .ok n
      | none => .error (.invalidNumber name)

/-- A number of seconds as a span of time. -/
def seconds (v : Variables) (name : String) (default : Millis) : Except ConfigError Millis :=
  match v.get? name with
  | none => .ok default
  | some text =>
      match natural? text with
      | some n => .ok (1000 * n)
      | none => .error (.invalidNumber name)

def text (v : Variables) (name default : String) : String := (v.get? name).getD default

end Variables

/-- How to reach a cluster and how long to wait for it. -/
structure ClusterConfig where
  apiUrl : String
  /-- Where metrics are served, if they are collected. -/
  metricsUrl : Option String
  namespaceName : String
  token : Option String
  connectTimeout : Millis
  readTimeout : Millis
  /-- The time between two looks at an object. -/
  pollInterval : Millis
  /-- How long to wait for an object. -/
  watchTimeout : Millis
  storageClass : Option String
  volumeSize : String
  /-- The series fetched for finished batch jobs. -/
  metrics : List String
  deriving DecidableEq

namespace ClusterConfig

def initial : ClusterConfig where
  apiUrl := "https://127.0.0.1:8443"
  metricsUrl := none
  namespaceName := "eoflow"
  token := none
  connectTimeout := 5000
  readTimeout := 30000
  pollInterval := 1000
  watchTimeout := 3600000
  storageClass := none
  volumeSize := "5Gi"
  metrics := ["cpu/usage_rate", "memory/usage", "network/rx_rate", "network/tx_rate"]

/-- A list separated by commas; blanks around its elements and empty elements are dropped. -/
def listOf (text : String) : List String :=
  ((text.splitOn ",").map Text.trim).filter (· ≠ "")

/-- Reads a configuration. -/
def ofVariables (v : Variables) : Except ConfigError ClusterConfig := do
  let some url := v.get? "EOFLOW_CLUSTER_URL"
    | .error (.missingVariable "EOFLOW_CLUSTER_URL")
  let connectTimeout ← v.seconds "EOFLOW_CONNECT_TIMEOUT_SECS" initial.connectTimeout
  let readTimeout ← v.seconds "EOFLOW_READ_TIMEOUT_SECS" initial.readTimeout
  let pollInterval ← v.number "EOFLOW_POLL_INTERVAL_MS" initial.pollInterval
  let watchTimeout ← v.seconds "EOFLOW_WATCH_TIMEOUT_SECS" initial.watchTimeout
  return {
    apiUrl := Variables.trimSlashes url
    metricsUrl := (v.get? "EOFLOW_METRICS_URL").map Variables.trimSlashes
    namespaceName := v.text "EOFLOW_NAMESPACE" initial.namespaceName
    token := v.get? "EOFLOW_CLUSTER_TOKEN"
    connectTimeout, readTimeout, pollInterval, watchTimeout
    storageClass := v.get? "EOFLOW_STORAGE_CLASS"
    volumeSize := v.text "EOFLOW_VOLUME_SIZE" initial.volumeSize
    metrics := ((v.get? "EOFLOW_METRICS").map listOf).getD initial.metrics }

end ClusterConfig
end ImageryJobs
