import FleetRollout.Proofs.CommandLine.Parts
import FleetRollout.Proofs.Http.Serving
import FleetRollout.Proofs.Wizard.Asking

/-! What a run sends over the network. A wizard sends what its calls send, in their order: all but
the creation of a deployment only reads. -/
namespace FleetRollout.CommandLine

open Http (AnsweredRequest)

variable {es later : List (Dialogue.Exchange interface)}

def answeredRequest? : Dialogue.Exchange interface → Option AnsweredRequest
  | ⟨.exchange request, answer⟩ => some (request, answer)
  | _ => none

def traffic (es : List (Dialogue.Exchange interface)) : List AnsweredRequest :=
  es.filterMap answeredRequest?

def requests (es : List (Dialogue.Exchange interface)) : List Http.Request :=
  (traffic es).map Prod.fst

def posts (es : List (Dialogue.Exchange interface)) : List Http.Request :=
  (requests es).filter fun request => request.method = .post

@[simp] theorem traffic_append : traffic (es ++ later) = traffic es ++ traffic later :=
  List.filterMap_append

@[simp] theorem requests_append : requests (es ++ later) = requests es ++ requests later := by
  simp [requests]

@[simp] theorem posts_append : posts (es ++ later) = posts es ++ posts later := by simp [posts]

def Question.Consults : Question → Prop
  | .exchange request => request.method = .get
  | .log _ => True
  | _ => False

/-- Talks to the management API, or writes to the log. -/
def Question.Talks : Question → Prop
  | .exchange _ | .log _ => True
  | _ => False

/-- Sends nothing but requests that read, and writes no file. -/
def Question.Spares : Question → Prop
  | .exchange request => request.method = .get
  | .file (.write _ _) => False
  | _ => True

theorem Question.Consults.spares {q : Question} (consults : q.Consults) : q.Spares := by
  cases q with
  | exchange request => exact consults
  | log entry => trivial
  | _ => contradiction

theorem posts_of_spares (spares : ∀ e ∈ es, e.question.Spares) : posts es = [] := by
  apply List.filter_eq_nil_iff.mpr
  intro request sent
  obtain ⟨⟨_, answer⟩, answered, rfl⟩ := List.mem_map.mp sent
  obtain ⟨⟨q, given⟩, found, same⟩ := List.mem_filterMap.mp answered
  cases q with
  | exchange request =>
    obtain ⟨rfl, rfl⟩ := Prod.mk.inj (Option.some.inj same)
    have get : request.method = .get := spares _ found
    simp [get]
  | _ => contradiction

theorem onHttp_asks {p : Http.Program α} (asks : p.Asks Http.Question.Reads) :
    (onHttp p).Asks Question.Consults := by
  refine Dialogue.Asks.relay asks fun q reads => ?_
  cases q with
  | log entry => exact ⟨trivial, fun _ => trivial⟩
  | exchange request => exact ⟨reads, fun _ => trivial⟩

theorem onHttp_talks (p : Http.Program α) : (onHttp p).Asks Question.Talks := by
  have any : p.Asks fun _ => True := by
    induction p with
    | done a => trivial
    | ask q next ih => exact ⟨trivial, ih⟩
  refine Dialogue.Asks.relay any fun q _ => ?_
  cases q <;> exact ⟨trivial, fun _ => trivial⟩

theorem traffic_onHttp {is : List (Dialogue.Exchange Http.interface)}
    (relayed : Dialogue.Relayed (fun q => answerHttp q) is es) : traffic es = Http.traffic is := by
  induction relayed with
  | nil => rfl
  | @cons e block is later asked rest ih =>
    obtain ⟨q, answer⟩ := e
    rw [traffic_append, ih]
    cases q with
    | log entry =>
      obtain rfl := Dialogue.runs_query.mp asked
      rfl
    | exchange request =>
      obtain rfl := Dialogue.runs_query.mp asked
      rfl

variable {client : Http.Client} {operation : Wizard.Operation}

/-- No operation but a submission does more than read. -/
theorem inWizard_asks {p : Wizard.Program α} (asks : p.Asks operation.MayAsk)
    (other : ∀ confirmed clock, operation ≠ .submit confirmed clock) :
    (inWizard client p).Asks Question.Consults := by
  refine Dialogue.Asks.relay asks fun q may => ?_
  cases q with
  | log entry => exact ⟨trivial, fun _ => trivial⟩
  | advance step => exact ⟨trivial, fun _ => trivial⟩
  | tourIsComplete => trivial
  | call c =>
    refine onHttp_asks (client.serve_asks ?_)
    rintro request rfl
    obtain ⟨confirmed, clock, same⟩ := may
    exact other confirmed clock same

theorem inWizard_talks (client : Http.Client) {p : Wizard.Program α}
    (asks : p.Asks operation.MayAsk) : (inWizard client p).Asks Question.Talks := by
  refine Dialogue.Asks.relay asks fun q _ => ?_
  cases q with
  | log entry => exact ⟨trivial, fun _ => trivial⟩
  | advance step => exact ⟨trivial, fun _ => trivial⟩
  | tourIsComplete => trivial
  | call c => exact onHttp_talks _

/-- What was sent to answer some calls of a wizard, one after the other. -/
def Served (client : Http.Client) : List Wizard.AnsweredCall → List AnsweredRequest → Prop
  | [], sent => sent = []
  | call :: rest, sent => ∃ is first last, (client.serve call.1).Runs is call.2 ∧
      Http.traffic is = first ∧ Served client rest last ∧ sent = first ++ last

theorem traffic_inWizard {is : List (Dialogue.Exchange Wizard.interface)}
    (relayed : Dialogue.Relayed (fun q => answerWizard client q) is es) :
    Served client (Wizard.answeredCalls is) (traffic es) := by
  induction relayed with
  | nil => rfl
  | @cons e block is later asked rest ih =>
    obtain ⟨q, answer⟩ := e
    rw [traffic_append]
    cases q with
    | call c =>
      obtain ⟨inner, runs, relayed⟩ := Dialogue.Runs.relayed asked
      exact ⟨inner, _, _, runs, (traffic_onHttp relayed).symm, ih, rfl⟩
    | log entry =>
      obtain rfl := Dialogue.runs_query.mp asked
      exact ih
    | advance step =>
      obtain rfl := Dialogue.runs_query.mp asked
      exact ih
    | tourIsComplete =>
      obtain ⟨rfl, _⟩ := Dialogue.runs_done.mp asked
      exact ih

/-- A submission that is refused sends nothing; any other creates the deployment that is selected,
or fails to. -/
theorem submit_traffic {w : Wizard} {confirmed : Bool} {clock : Wizard.Readings}
    {r : Except DeployError Wizard.Outcome × Wizard}
    (runs : (inWizard client (w.submit confirmed clock)).Runs es r) :
    match w.refusal? confirmed clock with
    | some outcome => traffic es = [] ∧ r = (outcome, w)
    | none => ∃ request answer, w.preview clock.request = .ok request ∧
        Http.Client.Creates request (traffic es) answer ∧ r = w.concluded answer := by
  obtain ⟨is, inner, relayed⟩ := Dialogue.Runs.relayed runs
  have served := traffic_inWizard relayed
  have ended :=
    Dialogue.ensures_iff.mp (Wizard.submit_ensures_refusal? w confirmed clock) _ _ inner
  cases refusal : w.refusal? confirmed clock with
  | some outcome =>
    simp only [refusal] at ended
    obtain ⟨unasked, same⟩ := ended
    rw [unasked] at served
    exact ⟨served, same⟩
  | none =>
    simp only [refusal] at ended
    obtain ⟨request, answer, made, asked, same⟩ := ended
    rw [asked] at served
    obtain ⟨inner, first, last, runs, rfl, rfl, sent⟩ := served
    have creates := Dialogue.ensures_iff.mp (client.createDeployment_ensures request) _ _ runs
    rw [List.append_nil] at sent
    rw [sent]
    exact ⟨request, answer, made, creates, same⟩

end FleetRollout.CommandLine
