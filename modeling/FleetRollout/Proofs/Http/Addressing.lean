import FleetRollout.Proofs.Http.Appending
import FleetRollout.Proofs.Http.Query
import FleetRollout.Proofs.Http.Serving

/-! Which resource a request is for. The URL of an endpoint says the segments and the pairs that it
was made from as long as the segments are names. Requests about groups and devices of different
names then differ in their paths. -/
namespace FleetRollout.Http

open Text

namespace Url
variable {base : Url} {parts : List (List Char)}

theorem endpoint_path (path : base.path = .segments parts) (segments : List String)
    (query : List (String × String)) : (base.endpoint segments query).path =
      .segments (segments.foldl (addSegment base.kind) (trimmedSegments parts)) := by
  rw [endpoint, path]
  rfl

theorem trimmedSegments_slashFree (free : SlashFree parts) : SlashFree (trimmedSegments parts) := by
  unfold trimmedSegments
  split
  · exact fun part member => free part (List.dropLast_subset _ member)
  · exact free

theorem endpoint_segments (path : base.path = .segments parts) (free : SlashFree parts)
    (segments : List String) (query : List (String × String)) :
    (base.endpoint segments query).segments =
      (segments.foldl (addSegment base.kind) (trimmedSegments parts)).map decoded :=
  segments_eq (endpoint_path path segments query)
    (foldl_addSegment_slashFree (trimmedSegments_slashFree free) segments)

/-- The URL of an endpoint tells its segments exactly if they are names that fit behind the base. -/
theorem endpoint_segments_iff (path : base.path = .segments parts) (free : SlashFree parts)
    (segments : List String) (query : List (String × String)) :
    (base.endpoint segments query).segments =
        withoutEmptyEnd base.segments ++ segments.map bytesOfText ↔
      (∀ s ∈ segments, IsName s) ∧ Fits base.kind base.segments segments := by
  rw [endpoint_segments path free, segments_eq path free]
  exact tells_iff

theorem endpoint_pairs (base : Url) (segments : List String) (query : List (String × String)) :
    (base.endpoint segments query).pairs =
      base.pairs ++ query.map fun pair => (bytesOfText pair.1, bytesOfText pair.2) :=
  pairsOf_addPairs base.query query

end Url

/-- What a call asks about by its name. -/
inductive Resource where
  | group (name : String)
  | device (id : DeviceId)
deriving DecidableEq, Repr

namespace Resource

def name : Resource → String
  | group name => name
  | device id => id

def segments : Resource → List String
  | group name => ["api", "management", "v1", "inventory", "groups", name, "devices"]
  | device id => ["api", "management", "v1", "inventory", "devices", id]

def ofCall? : Call → Option Resource
  | .deviceCount (some name) | .groupDevices name _ => some (.group name)
  | .device id => some (.device id)
  | _ => none

variable {r r' : Resource}

theorem isName_of_mem_segments (name : IsName r.name) : ∀ s ∈ r.segments, IsName s := by
  cases r with
  | group group =>
    simp only [segments, List.forall_mem_cons]
    exact ⟨by decide, by decide, by decide, by decide, by decide, name, by decide, nofun⟩
  | device id =>
    simp only [segments, List.forall_mem_cons]
    exact ⟨by decide, by decide, by decide, by decide, by decide, name, nofun⟩

theorem segments_inj : r.segments = r'.segments ↔ r = r' := by
  cases r <;> cases r' <;> simp [segments]

theorem head?_segments (r : Resource) : r.segments.head? = some "api" := by
  cases r <;> rfl

theorem not_isBarred_api : ¬ IsBarred "api" := by
  rintro ⟨letter, -, bar⟩
  have count : 3 = 2 := congrArg List.length bar
  contradiction

/-- Segments of a resource fit behind any path but two slashes. -/
theorem segments_fit {kind : SchemeKind} {base : List (List UInt8)} (path : base ≠ [[], []]) :
    Fits kind base r.segments := by
  have head := head?_segments r
  constructor
  · rintro - none
    rw [none] at head
    contradiction
  · intro slashes
    exact absurd slashes path
  · rintro - empty
    rw [head] at empty
    contradiction
  · rintro - - s first
    rw [head] at first
    rw [← Option.some.inj first]
    exact not_isBarred_api

/-- Behind every path, resources of different names have different paths. -/
theorem path_inj {base : Url} {parts : List (List Char)} (path : base.path = .segments parts)
    (free : SlashFree parts) (name : IsName r.name) (name' : IsName r'.name)
    {query query' : List (String × String)}
    (same : (base.endpoint r.segments query).path.chars =
      (base.endpoint r'.segments query').path.chars) : r = r' := by
  have run (r : Resource) (name : IsName r.name) :
      r.segments.foldl (addSegment base.kind) (trimmedSegments parts) =
        openSegments (trimmedSegments parts) ++ r.segments.map (written base.kind) := by
    obtain ⟨rest, split⟩ := List.head?_eq_some_iff.mp (head?_segments r)
    have all := isName_of_mem_segments name
    rw [split] at all ⊢
    obtain ⟨first, others⟩ := List.forall_mem_cons.mp all
    exact foldl_addSegment_cons first others (fun _ _ => not_isBarred_api) (by decide)
  have told (r : Resource) (name : IsName r.name) (query : List (String × String)) :
      (base.endpoint r.segments query).segments =
        (openSegments (trimmedSegments parts)).map decoded ++ r.segments.map bytesOfText := by
    rw [Url.endpoint_segments path free, run r name, List.map_append,
      map_decoded_written (isName_of_mem_segments name)]
  have segments := congrArg (fun chars => (pathTexts chars).map decoded) same
  have equal := (told r name query).symm.trans (segments.trans (told r' name' query'))
  have texts := List.append_cancel_left equal
  have injective : Function.Injective bytesOfText := fun _ _ => bytesOfText_inj.mp
  exact segments_inj.mp (List.map_injective_iff.mpr injective texts)

end Resource

/-- Requests an endpoint of these segments, or writes to the log. -/
def Question.Addresses (base : Url) (segments : List String) : Question → Prop
  | .exchange request => ∃ query, request.url = base.endpoint segments query
  | .log _ => True

namespace Client

theorem serve_addresses (client : Client) {call : Call} {r : Resource}
    (about : Resource.ofCall? call = some r) :
    (client.serve call).Asks (Question.Addresses client.base r.segments) := by
  have logs (entry : LogEntry) : Question.Addresses client.base r.segments (.log entry) := trivial
  have devices (group : String) (perPage : UInt32) :
      (client.groupDevices group perPage).Asks
        (Question.Addresses client.base (Resource.group group).segments) :=
    (client.getWithTotal_asks (fun _ => trivial) fun _ _ url => ⟨_, url⟩).bind fun _ => trivial
  cases call with
  | deviceCount group =>
    cases group with
    | none => contradiction
    | some group =>
      obtain rfl := Option.some.inj about
      exact (devices _ _).bind fun _ => trivial
  | groupDevices group perPage =>
    obtain rfl := Option.some.inj about
    exact devices _ _
  | device id =>
    obtain rfl := Option.some.inj about
    exact (client.get_asks logs fun _ _ url => ⟨_, url⟩).bind fun _ => trivial
  | releases | groups | savedFilters | deploymentsConfig | createDeployment => contradiction

/-- A request that some call about a resource sends, whatever the answers are. -/
def Sends (client : Client) (r : Resource) (request : Request) : Prop :=
  ∃ call es answer became, Resource.ofCall? call = some r ∧
    (client.serve call).Runs es answer ∧ (request, became) ∈ traffic es

variable {client : Client} {r r' : Resource} {request request' : Request}

theorem Sends.url (sends : client.Sends r request) :
    ∃ query, request.url = client.base.endpoint r.segments query := by
  obtain ⟨call, es, answer, became, about, run, member⟩ := sends
  obtain ⟨⟨question, reply⟩, found, answered⟩ := List.mem_filterMap.mp member
  have asked := (client.serve_addresses about).exchanges run _ found
  cases question with
  | log entry => contradiction
  | exchange request =>
    obtain ⟨rfl, -⟩ := Prod.mk.inj (Option.some.inj answered)
    exact asked

/-- Whether a request for a URL gets out. -/
def CanSend (client : Client) (url : Url) : Prop :=
  isSendable client.token = true ∧ url.toText.utf8ByteSize ≤ maxUrlSize

/-- What comes up when a request gets out and is not answered. -/
def unanswered (client : Client) (url : Url) : List (Dialogue.Exchange interface) :=
  [⟨.log ⟨.debug, "GET " ++ url.toText⟩, ()⟩,
    ⟨.exchange { method := .get, url, authorization := some ("Bearer " ++ client.token) },
      .error .unreachable⟩]

theorem send_runs {url : Url} (able : client.CanSend url) :
    (client.send .get url none).Runs (client.unanswered url) (.error (.http .unreachable)) := by
  have out : (isSendable client.token && decide (url.toText.utf8ByteSize ≤ maxUrlSize)) = true := by
    rw [able.1, Bool.true_and, decide_eq_true able.2]
  rw [send]
  refine Dialogue.Runs.ask (I := interface) (q := .log _) () ?_
  rw [if_pos out]
  exact Dialogue.Runs.ask (I := interface) (q := .exchange _) (.error .unreachable) (.done _)

/-- A call about a resource does send a request for it. -/
theorem sends_device {id : DeviceId}
    (able : client.CanSend (client.base.endpoint (Resource.device id).segments [])) :
    ∃ request, client.Sends (.device id) request := by
  have run : (client.serve (.device id)).Runs
      (client.unanswered (client.base.endpoint (Resource.device id).segments []))
      (.error (.http .unreachable)) := by
    rw [serve, get, getWithTotal]
    exact .andThen (.andThen (.andThen (send_runs able) rfl) rfl) rfl
  exact ⟨_, .device id, _, _, .error .unreachable, rfl, run, List.mem_singleton_self _⟩

theorem sends_group {group : String} {perPage : UInt32}
    (able : client.CanSend (client.base.endpoint (Resource.group group).segments
      [("page", "1"), ("per_page", toString perPage.toNat)])) :
    ∃ request, client.Sends (.group group) request := by
  have run : (client.serve (.groupDevices group perPage)).Runs
      (client.unanswered (client.base.endpoint (Resource.group group).segments
        [("page", "1"), ("per_page", toString perPage.toNat)])) (.error (.http .unreachable)) := by
    rw [serve, groupDevices, getWithTotal]
    exact .andThen (.andThen (send_runs able) rfl) rfl
  exact ⟨_, .groupDevices group perPage, _, _, .error .unreachable, rfl, run,
    List.mem_singleton_self _⟩

/-- The URL of an endpoint tells the segments it was made from, behind those of the base, exactly if
they are names that fit there; it always tells the pairs of its query. So a request about a group or
a device whose name is one goes to the path of just that name. -/
theorem requests_address_resources {baseUrl token : String} {client : Client}
    (ready : Client.ofBase baseUrl token = .ok client) :
    (∀ segments query,
      ((client.base.endpoint segments query).segments =
          withoutEmptyEnd client.base.segments ++ segments.map bytesOfText ↔
        (∀ s ∈ segments, IsName s) ∧ Fits client.base.kind client.base.segments segments) ∧
      (client.base.endpoint segments query).pairs =
        client.base.pairs ++ query.map fun pair => (bytesOfText pair.1, bytesOfText pair.2)) ∧
    (∀ r request, client.Sends r request → IsName r.name → client.base.segments ≠ [[], []] →
      request.url.segments = withoutEmptyEnd client.base.segments ++ r.segments.map bytesOfText) ∧
    ∀ r r' request request', client.Sends r request → client.Sends r' request' →
      IsName r.name → IsName r'.name → request.url.path.chars = request'.url.path.chars →
      r = r' := by
  obtain ⟨parts, path, free⟩ := Client.ofBase_segments ready
  refine ⟨?_, ?_, ?_⟩
  · intro segments query
    exact ⟨Url.endpoint_segments_iff path free segments query,
      Url.endpoint_pairs client.base segments query⟩
  · intro r request sends name base
    obtain ⟨query, url⟩ := sends.url
    rw [url, Url.endpoint_segments_iff path free]
    exact ⟨Resource.isName_of_mem_segments name, Resource.segments_fit base⟩
  · intro r r' request request' sends sends' name name' same
    obtain ⟨query, url⟩ := sends.url
    obtain ⟨query', url'⟩ := sends'.url
    rw [url, url'] at same
    exact Resource.path_inj path free name name' same

def tenant : Client :=
  ⟨{ scheme := "https".toList
     authority := some { host := "fleet.example.com".toList }
     path := .segments ["tenant-a".toList] }, "t0ken"⟩

deriving instance DecidableEq for Client

theorem ofBase_tenant : Client.ofBase "https://fleet.example.com/tenant-a/" "t0ken" = .ok tenant := by
  decide +kernel

theorem requests_address_resources_tenant :
    Client.ofBase "https://fleet.example.com/tenant-a/" "t0ken" = .ok tenant ∧
    ∃ request request', tenant.Sends (.group "50%/é") request ∧
      tenant.Sends (.device "50%/é") request' ∧
      request.url.segments = ["tenant-a", "api", "management", "v1", "inventory", "groups",
        "50%/é", "devices"].map bytesOfText ∧
      request.url.path.chars ≠ request'.url.path.chars := by
  have able : tenant.CanSend (tenant.base.endpoint (Resource.group "50%/é").segments
      [("page", "1"), ("per_page", toString (1 : UInt32).toNat)]) := by
    constructor <;> decide +kernel
  have able' : tenant.CanSend (tenant.base.endpoint (Resource.device "50%/é").segments []) := by
    constructor <;> decide +kernel
  obtain ⟨request, sends⟩ := sends_group able
  obtain ⟨request', sends'⟩ := sends_device able'
  obtain ⟨-, told, apart⟩ := requests_address_resources ofBase_tenant
  refine ⟨ofBase_tenant, request, request', sends, sends', ?_, ?_⟩
  · exact told _ _ sends (by decide) (by decide +kernel)
  · intro same
    have equal := apart _ _ _ _ sends sends' (by decide) (by decide) same
    contradiction

/-- A tab in the name of a group is lost: the path does not tell the name, and is that of another
group. -/
theorem not_requests_address_resources :
    Client.ofBase "https://fleet.example.com/tenant-a/" "t0ken" = .ok tenant ∧
    (tenant.base.endpoint (Resource.group "field\tunits").segments []).segments ≠
      withoutEmptyEnd tenant.base.segments ++
        (Resource.group "field\tunits").segments.map bytesOfText ∧
    (tenant.base.endpoint (Resource.group "field\tunits").segments []).path.chars =
      (tenant.base.endpoint (Resource.group "fieldunits").segments []).path.chars := by
  refine ⟨ofBase_tenant, ?_, ?_⟩
  · decide +kernel
  · decide +kernel

end Client
end FleetRollout.Http
