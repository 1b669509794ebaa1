import FleetRollout.Backend
import FleetRollout.Dialogue
import FleetRollout.Http.Endpoint
import FleetRollout.Http.Status
import FleetRollout.Log

/-! The management API over HTTP: which request a call makes, and what its response means. -/
namespace FleetRollout.Http

open Text
open Json (Reader)

inductive Method where
  | get
  | post
deriving DecidableEq, Repr

def Method.name : Method → String
  | get => "GET"
  | post => "POST"

/-- A request. A body is sent as JSON. -/
structure Request where
  method : Method
  url : Url
  authorization : Option String
  body : Option Json := none

structure Response where
  status : UInt16
  headers : List (String × String) := []
  /-- The bytes of the body, unless it broke off. -/
  body : Option (List UInt8) := some []

namespace Response

/-- Whether a character may stand in a header value that is read as text. -/
def isHeaderChar (c : Char) : Bool := c = '\t' || (0x20 ≤ c.toNat && c.toNat < 0x7F)

def headerValue (value : String) : List Char :=
  let blank (c : Char) : Bool := c = ' ' || c = '\t'
  ((value.toList.dropWhile blank).reverse.dropWhile blank).reverse

/-- The value of the first header of a name, in any mix of cases; one with characters outside ASCII
counts as absent. -/
def header? (r : Response) (name : String) : Option (List Char) :=
  match r.headers.find? fun h => h.1.toLower = name.toLower with
  | some (_, value) => (some (headerValue value)).filter fun cs => cs.all isHeaderChar
  | none => none

def total? (r : Response) : Option UInt64 :=
  (r.header? "X-Total-Count").bind fun cs => readUInt64 (trim cs)

def text (r : Response) : String := String.ofList (ofBytes (r.body.getD []))

def value? (r : Response) (read : Reader α) : Option α := do
  read.ofString? (String.ofList (← ofUtf8? (← r.body)))

/-- What a rejected request is told: the reported error, or the whole body. -/
def rejection (r : Response) : String :=
  match ErrorReport.read.ofString? r.text with
  | some report => report.message
  | none => r.text

end Response

inductive Question where
  | log (entry : LogEntry)
  /-- Sends a request and waits for what comes of it. -/
  | exchange (request : Request)

def Question.Answer : Question → Type
  | log _ => Unit
  | exchange _ => Except HttpFault Response

def interface : Interface := ⟨Question, Question.Answer⟩

abbrev Program (α : Type) := Dialogue interface α

def log (level : LogLevel) (message : String) : Program Unit :=
  .query (I := interface) (.log ⟨level, message⟩)

def exchange (request : Request) : Program (Except HttpFault Response) :=
  .query (I := interface) (.exchange request)

structure Client where
  base : Url
  token : String

namespace Client

/-- A client for the API at a URL; slashes at its end count for nothing. -/
def ofBase (baseUrl token : String) : Except DeployError Client :=
  match Url.ofChars (trimEndOf '/' baseUrl.toList) with
  | .error fault => .error (.url fault)
  | .ok url =>
    match url.path with
    | .plain _ => .error (.config (.notABase url.toText))
    | .segments _ => .ok ⟨url, token⟩

def isSendable (token : String) : Bool :=
  token.toList.all fun c => c = '\t' || (0x20 ≤ c.toNat && c.toNat ≠ 0x7F)

def maxUrlSize : Nat := 65534

/-- Sends a request; only a response of success counts as an answer. -/
def send (client : Client) (method : Method) (url : Url) (body : Option Json) :
    Program (Except DeployError Response) := do
  log .debug (method.name ++ " " ++ url.toText)
  if isSendable client.token && url.toText.utf8ByteSize ≤ maxUrlSize then
    match ← exchange { method, url, body, authorization := some ("Bearer " ++ client.token) } with
    | .error fault => return .error (.http fault)
    | .ok response =>
      if isSuccess response.status then return .ok response
      else
        log .error ("HTTP " ++ method.name ++ " failed: " ++ statusText response.status ++ " - "
          ++ response.rejection)
        return .error (.rejected response.status response.rejection)
  else return .error (.http .unsendable)

/-- Gets a resource that is read as JSON, with the total of its listing if the response tells it. -/
def getWithTotal (client : Client) (read : Reader α) (segments : List String)
    (query : List (String × String)) : Program (Except DeployError (α × Option UInt64)) := do
  match ← client.send .get (client.base.endpoint segments query) none with
  | .error e => return .error e
  | .ok response =>
    match response.value? read with
    | some value => return .ok (value, response.total?)
    | none => return .error (.http .unreadableBody)

def get (client : Client) (read : Reader α) (segments : List String)
    (query : List (String × String)) : Program (Except DeployError α) := do
  return (← client.getWithTotal read segments query).map (·.1)

/-- The first page of a group's devices. Without a total in the response, the page is all. -/
def groupDevices (client : Client) (group : String) (perPage : UInt32) :
    Program (Except DeployError GroupPage) := do
  let answer ← client.getWithTotal (.list .string)
    ["api", "management", "v1", "inventory", "groups", group, "devices"]
    [("page", "1"), ("per_page", toString perPage.toNat)]
  return answer.map fun (devices, total) => ⟨total.getD (.ofNat devices.length), devices⟩

def releasePairs (query : ReleaseQuery) : List (String × String) :=
  [("page", toString query.page.toNat), ("per_page", toString query.perPage.toNat)] ++
    match query.searchTerm with
    | some term => if term.isEmpty then [] else [("name", term)]
    | none => []

/-- The id of a deployment: the last segment of the location of the new resource. -/
def deploymentId (location : List Char) : Option String :=
  match (pieces '/' (trimEndOf '/' location)).getLast? with
  | some (c :: cs) => some (String.ofList (c :: cs))
  | _ => none

def createDeployment (client : Client) (request : DeploymentRequest) :
    Program (Except DeployError CreatedDeployment) := do
  let url := client.base.endpoint ["api", "management", "v1", "deployments", "deployments"] []
  match ← client.send .post url (some request.toJson) with
  | .error e => return .error e
  | .ok response =>
    let id := (response.header? "Location").bind deploymentId
    log .info ("Deployment " ++ id.getD "<unknown>" ++ " created")
    return .ok ⟨id⟩

def serve (client : Client) : (c : Call) → Program (Except DeployError c.Answer)
  | .deviceCount none => do
    let answer ← client.get DeviceCount.read
      ["api", "management", "v2", "devauth", "devices", "count"] [("status", "accepted")]
    return answer.map (·.count)
  | .deviceCount (some group) => do
    let answer ← client.groupDevices group 1
    return answer.map (·.total)
  | .groupDevices group perPage => client.groupDevices group perPage
  | .releases query => do
    let answer ← client.get (.list ReleaseInfo.read)
      ["api", "management", "v1", "deployments", "deployments", "releases", "list"]
      (releasePairs query)
    return answer.map fun (releases : List ReleaseInfo) => releases.map (·.name)
  | .groups => client.get (.list .string) ["api", "management", "v1", "inventory", "groups"] []
  | .savedFilters => do
    let answer ← client.get (.list InventoryFilter.read)
      ["api", "management", "v2", "inventory", "filters"] []
    return answer.map fun (filters : List InventoryFilter) => filters.map (·.toSaved)
  | .device id => do
    let answer ← client.get InventoryDevice.read
      ["api", "management", "v1", "inventory", "devices", id] []
    return answer.map (·.toRecord)
  | .deploymentsConfig =>
    client.get DeploymentsConfig.read ["api", "management", "v1", "deployments", "config"] []
  | .createDeployment request => client.createDeployment request

end Client
end FleetRollout.Http
