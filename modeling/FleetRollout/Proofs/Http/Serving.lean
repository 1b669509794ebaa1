import FleetRollout.Http.Client

/-! What a client sends for a call: one request that reads, or the one that creates a deployment. -/
namespace FleetRollout.Http

abbrev AnsweredRequest := Request × Except HttpFault Response

def answeredRequest? : Dialogue.Exchange interface → Option AnsweredRequest
  | ⟨.exchange request, answer⟩ => some (request, answer)
  | ⟨.log _, _⟩ => none

def traffic (es : List (Dialogue.Exchange interface)) : List AnsweredRequest :=
  es.filterMap answeredRequest?

@[simp] theorem traffic_append (es later : List (Dialogue.Exchange interface)) :
    traffic (es ++ later) = traffic es ++ traffic later := List.filterMap_append

/-- Asks for something, or writes to the log. -/
def Question.Reads : Question → Prop
  | .exchange request => request.method = .get
  | .log _ => True

section
variable {kind : Question → Prop} (logs : ∀ entry, kind (.log entry))
include logs

theorem log_asks (level : LogLevel) (message : String) : (log level message).Asks kind :=
  ⟨logs _, fun _ => trivial⟩

omit logs in
theorem exchange_asks {request : Request} (sends : kind (.exchange request)) :
    (exchange request).Asks kind := ⟨sends, fun _ => trivial⟩

namespace Client
variable (client : Client) {read : Json.Reader α} {segments : List String}
  {query : List (String × String)}

/-- Besides the log, only the request is asked for. -/
theorem send_asks {method : Method} {url : Url} {body : Option Json}
    (sends : ∀ request : Request, request.method = method → request.url = url →
      kind (.exchange request)) : (client.send method url body).Asks kind := by
  refine (log_asks logs _ _).bind fun _ => ?_
  split
  · refine (exchange_asks (sends _ rfl rfl)).bind fun answer => ?_
    cases answer with
    | error fault => trivial
    | ok response =>
      dsimp only
      split
      · trivial
      · exact (log_asks logs _ _).bind fun _ => trivial
  · trivial

theorem getWithTotal_asks (sends : ∀ request : Request, request.method = .get →
      request.url = client.base.endpoint segments query → kind (.exchange request)) :
    (client.getWithTotal read segments query).Asks kind := by
  refine (client.send_asks logs sends).bind fun answer => ?_
  cases answer with
  | error e => trivial
  | ok response =>
    dsimp only
    split <;> trivial

theorem get_asks (sends : ∀ request : Request, request.method = .get →
      request.url = client.base.endpoint segments query → kind (.exchange request)) :
    (client.get read segments query).Asks kind :=
  (client.getWithTotal_asks logs sends).bind fun _ => trivial

end Client
end

theorem ensures_exchange {request : Request}
    {P : List (Dialogue.Exchange interface) → Except HttpFault Response → Prop} :
    (exchange request).Ensures P ↔ ∀ answer, P [⟨.exchange request, answer⟩] answer := Iff.rfl

namespace Client
variable (client : Client)

/-- Only the creation of a deployment does more than read. -/
theorem serve_asks {c : Call} (plain : ∀ request, c ≠ .createDeployment request) :
    (client.serve c).Asks Question.Reads := by
  have logs (entry : LogEntry) : Question.Reads (.log entry) := trivial
  have get {α : Type} (read : Json.Reader α) (segments : List String)
      (query : List (String × String)) : (client.get read segments query).Asks Question.Reads :=
    client.get_asks logs fun _ method _ => method
  have devices (group : String) (perPage : UInt32) :
      (client.groupDevices group perPage).Asks Question.Reads :=
    (client.getWithTotal_asks logs fun _ method _ => method).bind fun _ => trivial
  cases c with
  | createDeployment request => exact absurd rfl (plain request)
  | deviceCount group =>
    cases group with
    | none => exact (get _ _ _).bind fun _ => trivial
    | some group => exact (devices _ _).bind fun _ => trivial
  | groupDevices group perPage => exact devices _ _
  | groups | deploymentsConfig => exact get _ _ _
  | releases | savedFilters | device => exact (get _ _ _).bind fun _ => trivial

/-- At most one request is sent, and only a response of success to it counts as an answer. -/
theorem send_ensures (method : Method) (url : Url) (body : Option Json) :
    (client.send method url body).Ensures fun es answer =>
      (traffic es = [] ∧ ∃ e, answer = .error e) ∨
      ∃ request became, traffic es = [(request, became)] ∧ request.method = method ∧
        request.body = body ∧
        ∀ response, answer = .ok response → became = .ok response ∧ isSuccess response.status := by
  refine Dialogue.ensures_bind.mpr fun _ => ?_
  split
  · refine Dialogue.ensures_bind.mpr (ensures_exchange.mpr fun became => ?_)
    cases became with
    | error fault => exact .inr ⟨_, _, rfl, rfl, rfl, nofun⟩
    | ok response =>
      dsimp only
      split
      · rename_i success
        refine .inr ⟨_, _, rfl, rfl, rfl, ?_⟩
        rintro _ ⟨⟩
        exact ⟨rfl, success⟩
      · exact fun _ => .inr ⟨_, _, rfl, rfl, rfl, nofun⟩
  · exact .inl ⟨rfl, _, rfl⟩

/-- What the traffic of the creation of a deployment may be, with what it comes to. -/
def Creates (request : DeploymentRequest) (sent : List AnsweredRequest)
    (answer : Except DeployError CreatedDeployment) : Prop :=
  (sent = [] ∧ ∃ e, answer = .error e) ∨
  ∃ post became, sent = [(post, became)] ∧ post.method = .post ∧
    post.body = some request.toJson ∧
    ∀ created, answer = .ok created → ∃ response, became = .ok response ∧ isSuccess response.status

theorem createDeployment_ensures (request : DeploymentRequest) :
    (client.createDeployment request).Ensures fun es answer =>
      Creates request (traffic es) answer := by
  refine Dialogue.ensures_bind.mpr ((client.send_ensures .post _ _).imp ?_)
  rintro es answer (⟨unsent, e, rfl⟩ | ⟨post, became, sent, method, body, succeeds⟩)
  · exact .inl ⟨by simpa using unsent, e, rfl⟩
  · cases answer with
    | error e => exact .inr ⟨post, became, by simpa using sent, method, body, nofun⟩
    | ok response =>
      obtain ⟨rfl, success⟩ := succeeds response rfl
      intro _
      refine .inr ⟨post, _, ?_, method, body, fun _ _ => ⟨response, rfl, success⟩⟩
      rw [traffic_append, sent]
      rfl

end Client
end FleetRollout.Http
