import ImageryJobs.Cluster.Address
import ImageryJobs.Cluster.Config
import ImageryJobs.Cluster.Request

/-!
Requests to a cluster over HTTP: which message is sent for a request, and what an answer of the
network means. Nothing is ever sent twice.
-/

namespace ImageryJobs.Http

/-- A message to a server. -/
structure Message where
  method : String
  address : Address
  authorization : Option String
  /-- Selects the tenant of the metrics service. -/
  tenant : Option String
  contentType : Option String
  body : Option String
  deriving DecidableEq

/-- How the network answers a message. -/
inductive Answer where
  | response (status : Nat) (contentType : Option String) (body : List UInt8)
  /-- Nothing comes in time. -/
  | silence
  /-- There is no connection, or it broke. -/
  | broken
  deriving DecidableEq

/-- The address of one of the services; slashes at its end do not count. -/
def baseUrl (config : ClusterConfig) : Api → Except ClusterError String
  | .controlPlane => .ok (Variables.trimSlashes config.apiUrl)
  | .metrics =>
      match config.metricsUrl with
      | some url => .ok (Variables.trimSlashes url)
      | none => .error (.transport "No metrics URL configured")

/-- Whether a text may stand in a header: no control characters but tabs. -/
def isHeaderText (text : String) : Bool :=
  text.toList.all fun c => c = '\t' || (32 ≤ c.toNat && c.toNat ≠ 127)

/-- The address of what a request is about. -/
def urlOf (config : ClusterConfig) (r : Request) : Except ClusterError String :=
  (baseUrl config r.api).map (· ++ r.path)

/-- The message for a request. -/
def message (config : ClusterConfig) (r : Request) : Except ClusterError Message := do
  let url ← urlOf config r
  let some address := (Address.read? url).filter Address.isSendable
    | throw (.transport s!"{url}: not an address")
  let authorization := config.token.map fun token => "Bearer " ++ token
  let tenant := if r.api = .metrics then some config.namespaceName else none
  if !(authorization.all isHeaderText && tenant.all isHeaderText) then
    throw (.transport s!"{url}: a header cannot be sent")
  return {
    method := r.verb.name
    address, authorization, tenant
    contentType := r.body.map fun _ => "application/json"
    body := r.body.map Json.render }

/-- Whether a content type promises JSON. -/
def isJson (contentType : Option String) : Bool :=
  contentType.any fun t => t.toList.all (fun c => c = '\t' || (32 ≤ c.toNat && c.toNat < 127)) &&
    Text.contains "json" t

/-- Statuses whose responses have no body. -/
def isBodiless (status : Nat) : Bool := status = 101 || status = 204 || status = 304

/-- Whether a status says that another response follows. -/
def isInterim (status : Nat) : Bool := status = 100 || (101 < status && status < 200)

/-- Whether a response can be read. Its status has three digits, and no response follows an interim
one. -/
def isReadable (status : Nat) (contentType : Option String) : Bool :=
  100 ≤ status && status < 1000 && !isInterim status && contentType.all isHeaderText

/-- What an answer to a request means. -/
def reply (r : Request) (url : String) : Answer → Reply
  | .silence => .error (.timeout s!"{url}: no answer in time")
  | .broken => .error (.transport s!"{url}: no connection")
  | .response status contentType octets =>
      if !isReadable status contentType then .error (.transport s!"{url}: no response") else
      let text := if isBodiless status then "" else Text.ofOctetsLossy octets
      if status < 200 ∨ 300 ≤ status then .error (.api status text)
      else if text = "" then .ok .empty
      else if isJson contentType then
        match Json.read? text with
        | some value => .ok (.json value)
        | none => .error (.decode s!"{r.verb.name} {r.path}: not JSON")
      else .ok (.text text)

/-- Sends one request. -/
def exchange (config : ClusterConfig) (network : Message → Answer) (r : Request) : Reply := do
  let m ← message config r
  reply r (← urlOf config r) (network m)

end ImageryJobs.Http
