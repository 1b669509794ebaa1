import FleetRollout.Proofs.CommandLine.Accepting
import FleetRollout.Proofs.CommandLine.Preparation

/-! What a run creates and what it writes. It creates one deployment at most, and only if arguments,
settings and answers allow it; it writes its settings file only to make one, or once a deployment
was created that leaves other defaults behind. -/
namespace FleetRollout.CommandLine
variable {es later : List (Dialogue.Exchange interface)}

def lineRead? : Dialogue.Exchange interface → Option String
  | ⟨.readLine, line⟩ => some line
  | _ => none

def linesRead (es : List (Dialogue.Exchange interface)) : List String := es.filterMap lineRead?

/-- A path with the text that is written there. -/
def written? : Dialogue.Exchange interface → Option (String × String)
  | ⟨.file (.write path text), _⟩ => some (path, text)
  | _ => none

def writes (es : List (Dialogue.Exchange interface)) : List (String × String) :=
  es.filterMap written?

@[simp] theorem linesRead_append : linesRead (es ++ later) = linesRead es ++ linesRead later :=
  List.filterMap_append

@[simp] theorem writes_append : writes (es ++ later) = writes es ++ writes later :=
  List.filterMap_append

theorem writes_of_spares (spares : ∀ e ∈ es, e.question.Spares) : writes es = [] := by
  apply List.filterMap_eq_nil_iff.mpr
  rintro ⟨q, answer⟩ found
  cases q with
  | file question =>
    cases question with
    | write path text => exact (spares _ found).elim
    | examine | read => rfl
  | _ => rfl

/-- Uses no file, and neither environment nor settings. -/
def Question.Submits : Question → Prop
  | .print _ | .readLine | .now | .exchange _ | .log _ => True
  | _ => False

theorem Question.Talks.submits {q : Question} (talks : q.Talks) : q.Submits := by
  cases q with
  | exchange | log => trivial
  | _ => contradiction

theorem files_of_submits (submits : ∀ e ∈ es, e.question.Submits) :
    writes es = [] ∧ settingsRead es = [] := by
  constructor
  all_goals
    apply List.filterMap_eq_nil_iff.mpr
    rintro ⟨q, answer⟩ found
    cases q with
    | file question => exact (submits _ found).elim
    | _ => rfl

def agrees (line : String) : Bool := ["y", "yes"].contains (Text.trimmed line).toLower

theorem confirm_runs {message : String} {yes : Bool} (runs : (confirm message).Runs es yes) :
    ∃ line, traffic es = [] ∧ linesRead es = [line] ∧ yes = agrees line := by
  obtain ⟨first, _, rest, printed, reads, rfl⟩ := Dialogue.runs_bind.mp runs
  obtain rfl := Dialogue.runs_query.mp printed
  obtain ⟨second, line, last, read, ended, rfl⟩ := Dialogue.runs_bind.mp reads
  obtain rfl := Dialogue.runs_query.mp read
  obtain ⟨rfl, rfl⟩ := Dialogue.runs_done.mp ended
  exact ⟨line, rfl, rfl, rfl⟩

theorem confirmed_of_unrefused {w : Wizard} {confirmed : Bool} {clock : Wizard.Readings}
    (unrefused : w.refusal? confirmed clock = none) (needs : w.options.needsConfirmation = true) :
    confirmed = true := by
  cases confirmed with
  | true => rfl
  | false =>
    unfold Wizard.refusal? at unrefused
    rw [needs] at unrefused
    repeat' split at unrefused
    all_goals contradiction

theorem refusal?_ne_created {w : Wizard} {confirmed : Bool} {clock : Wizard.Readings}
    {created : CreatedDeployment} : w.refusal? confirmed clock ≠ some (.ok (.created created)) := by
  unfold Wizard.refusal?
  repeat' split
  all_goals simp

theorem readings_runs {clock : Wizard.Readings} (runs : readings.Runs es clock) :
    es = [⟨.now, clock.check⟩, ⟨.now, clock.request⟩] := by
  obtain ⟨first, t, rest, asked, later, rfl⟩ := Dialogue.runs_bind.mp runs
  obtain rfl := Dialogue.runs_query.mp asked
  obtain ⟨second, t', last, asked, ended, rfl⟩ := Dialogue.runs_bind.mp later
  obtain rfl := Dialogue.runs_query.mp asked
  obtain ⟨rfl, rfl⟩ := Dialogue.runs_done.mp ended
  rfl

/-- A submission that was let through: the request that was previewed, with what became of it. -/
structure Submitted (w : Wizard) (es : List (Dialogue.Exchange interface))
    (request : DeploymentRequest) (answer : Except DeployError CreatedDeployment) : Prop where
  previewed : ∃ now, ⟨.now, now⟩ ∈ es ∧ w.preview now = .ok request
  creates : Http.Client.Creates request (traffic es) answer

def Confirmed (args : DeployArguments) (w : Wizard) (es : List (Dialogue.Exchange interface)) :
    Prop :=
  w.options.needsConfirmation = true → args.yes = true ∨ ∃ line ∈ linesRead es, agrees line = true

section Submitting
variable {args : DeployArguments} {client : Http.Client} {w : Wizard} {confirmed : Bool}

theorem submitting_runs {r : Except DeployError Wizard.Outcome × Wizard}
    (runs : (do inWizard client (w.submit confirmed (← readings))).Runs es r) :
    (∃ clock outcome, w.refusal? confirmed clock = some outcome ∧ traffic es = [] ∧
      r = (outcome, w)) ∨
    ∃ request answer, Submitted w es request answer ∧
      (w.options.needsConfirmation = true → confirmed = true) ∧ r = w.concluded answer := by
  obtain ⟨first, clock, rest, read, submits, rfl⟩ := Dialogue.runs_bind.mp runs
  obtain rfl := readings_runs read
  have sent : traffic ([⟨.now, clock.check⟩, ⟨.now, clock.request⟩] ++ rest) = traffic rest := rfl
  have ended := submit_traffic submits
  rw [sent]
  cases refusal : w.refusal? confirmed clock with
  | some outcome =>
    simp only [refusal] at ended
    exact .inl ⟨clock, outcome, refusal, ended.1, ended.2⟩
  | none =>
    simp only [refusal] at ended
    obtain ⟨request, answer, made, creates, same⟩ := ended
    exact .inr ⟨request, answer, ⟨⟨clock.request, by simp, made⟩, creates⟩,
      confirmed_of_unrefused refusal, same⟩

theorem submitting_asks (client : Http.Client) (w : Wizard) (confirmed : Bool) :
    (perform (do inWizard client (w.submit confirmed (← readings)))).run.Asks Question.Submits := by
  have reads : readings.Asks Question.Submits :=
    ⟨trivial, fun _ => ⟨trivial, fun _ => trivial⟩⟩
  refine asks_perform (reads.bind fun clock => ?_)
  exact (inWizard_talks client (w.submit_asks confirmed clock)).imp fun _ => Question.Talks.submits

theorem submitConfirmed_asks (args : DeployArguments) (client : Http.Client) (w : Wizard) :
    (submitConfirmed args client w).run.Asks Question.Submits := by
  unfold submitConfirmed
  refine asks_then (submitting_asks client w args.yes) fun ⟨result, w⟩ => ?_
  refine asks_then trivial fun outcome => ?_
  split
  · refine asks_then (asks_perform ?_) fun yes => ?_
    · exact ⟨trivial, fun _ => ⟨trivial, fun _ => trivial⟩⟩
    · split
      · refine asks_then (submitting_asks client w true) fun ⟨result, w⟩ => ?_
        exact asks_then trivial fun _ => trivial
      · trivial
  · trivial

/-- The outcome of a second submission is what the first one lacked. -/
theorem submittedAgain_runs {es : List (Dialogue.Exchange interface)}
    {result : Except DeployError Wizard.Outcome} {w : Wizard}
    {r : Except Failure (Option Wizard.Outcome × Wizard)}
    (runs : (do return (some (← check result), w) : Attempt _).run.Runs es r) :
    es = [] ∧ ∀ outcome w', r = .ok (some outcome, w') → result = .ok outcome ∧ w' = w := by
  obtain ⟨failure, _, rfl, rfl⟩ | ⟨outcome, known, ended⟩ := runs_done_then.mp runs
  · exact ⟨rfl, by simp⟩
  · obtain ⟨rfl, rfl⟩ := Dialogue.runs_done.mp ended
    cases result with
    | error e => contradiction
    | ok given =>
      obtain rfl := Except.ok.inj known
      refine ⟨rfl, ?_⟩
      rintro _ _ ⟨⟩
      exact ⟨rfl, rfl⟩

theorem concluded_created {answer : Except DeployError CreatedDeployment}
    {created : CreatedDeployment} (done : (w.concluded answer).1 = .ok (.created created)) :
    answer = .ok created := by
  cases answer with
  | ok given =>
    obtain rfl := Wizard.Outcome.created.inj (Except.ok.inj done)
    rfl
  | error e => contradiction

theorem Submitted.within {request : DeploymentRequest}
    {answer : Except DeployError CreatedDeployment} {part : List (Dialogue.Exchange interface)}
    (submitted : Submitted w part request answer) (found : ∀ e ∈ part, e ∈ es)
    (sent : traffic es = traffic part) : Submitted w es request answer := by
  obtain ⟨⟨t, asked, made⟩, creates⟩ := submitted
  refine ⟨⟨t, found _ asked, made⟩, ?_⟩
  rw [sent]
  exact creates

/-- What asking for a confirmation comes to after a submission that lacked one. -/
theorem confirming_runs {r : Except Failure (Option Wizard.Outcome × Wizard)}
    (runs : (do
      if ← perform (confirm w.confirmationMessage) then
        let (result, w) ← perform do inWizard client (w.submit true (← readings))
        return (some (← check result), w)
      else return (none, w) : Attempt (Option Wizard.Outcome × Wizard)).run.Runs es r) :
    (traffic es = [] ∧ ∀ created w', r ≠ .ok (some (.created created), w')) ∨
    ∃ request answer, Submitted w es request answer ∧
      (∃ line ∈ linesRead es, agrees line = true) ∧
      ∀ created w', r = .ok (some (.created created), w') →
        answer = .ok created ∧ w'.selection = w.selection := by
  obtain ⟨first, yes, rest, asked, later, rfl⟩ := runs_perform_then.mp runs
  obtain ⟨line, silent, read, agreed⟩ := confirm_runs asked
  cases yes with
  | false =>
    obtain ⟨rfl, rfl⟩ := Dialogue.runs_done.mp later
    exact .inl ⟨by simpa using silent, by simp⟩
  | true =>
    obtain ⟨second, ⟨result, w₂⟩, last, submits, ended, rfl⟩ := runs_perform_then.mp later
    obtain ⟨rfl, outcomes⟩ := submittedAgain_runs ended
    obtain ⟨t, outcome, refused, unsent, same⟩ | ⟨request, answer, submitted, _, same⟩ :=
      submitting_runs submits
    · obtain ⟨rfl, rfl⟩ := Prod.mk.inj same
      refine .inl ⟨by simp [silent, unsent], ?_⟩
      intro created w' done
      obtain ⟨rfl, _⟩ := outcomes _ _ done
      exact refusal?_ne_created refused
    · obtain ⟨rfl, rfl⟩ := Prod.mk.inj same
      refine .inr ⟨request, answer, ?_, ⟨line, by simp [read], agreed.symm⟩, ?_⟩
      · exact submitted.within (fun e found => by simp [found]) (by simp [silent])
      · intro created w' done
        obtain ⟨outcome, rfl⟩ := outcomes _ _ done
        exact ⟨concluded_created outcome, Wizard.concluded_selection w answer⟩

/-- At most one submission is let through, and without a yes none of a wizard that needs one. -/
theorem submitConfirmed_runs {r : Except Failure (Option Wizard.Outcome × Wizard)}
    (runs : (submitConfirmed args client w).run.Runs es r) :
    (traffic es = [] ∧ ∀ created w', r ≠ .ok (some (.created created), w')) ∨
    ∃ request answer, Submitted w es request answer ∧ Confirmed args w es ∧
      ∀ created w', r = .ok (some (.created created), w') →
        answer = .ok created ∧ w'.selection = w.selection := by
  obtain ⟨first, ⟨result, w₁⟩, rest, submits, later, rfl⟩ := runs_perform_then.mp runs
  obtain ⟨t, outcome, refused, unsent, same⟩ | ⟨request, answer, submitted, sure, same⟩ :=
    submitting_runs submits
  · obtain ⟨rfl, rfl⟩ := Prod.mk.inj same
    obtain ⟨failure, _, rfl, rfl⟩ | ⟨outcome, known, later⟩ := runs_done_then.mp later
    · exact .inl ⟨by simpa using unsent, by simp⟩
    · cases result with
      | error e => contradiction
      | ok given =>
        obtain rfl := Except.ok.inj known
        cases given with
        | created created => exact absurd refused refusal?_ne_created
        | alreadyInFlight =>
          obtain ⟨rfl, rfl⟩ := Dialogue.runs_done.mp later
          exact .inl ⟨by simpa using unsent, by simp⟩
        | needsConfirmation =>
          obtain ⟨silent, other⟩ | ⟨request, answer, submitted, agreed, created⟩ :=
            confirming_runs later
          · exact .inl ⟨by simp [unsent, silent], other⟩
          · refine .inr ⟨request, answer, ?_, fun _ => .inr ?_, created⟩
            · exact submitted.within (fun e found => by simp [found]) (by simp [unsent])
            · obtain ⟨line, read, yes⟩ := agreed
              exact ⟨line, by simp [read], yes⟩
  · obtain ⟨rfl, rfl⟩ := Prod.mk.inj same
    have whole : Submitted w (first ++ []) request answer := by simpa using submitted
    obtain ⟨failure, _, rfl, rfl⟩ | ⟨outcome, known, later⟩ := runs_done_then.mp later
    · exact .inr ⟨request, answer, whole, fun needs => .inl (sure needs), by simp⟩
    · cases answer with
      | error e => contradiction
      | ok created =>
        obtain rfl := Except.ok.inj known
        obtain ⟨rfl, rfl⟩ := Dialogue.runs_done.mp later
        refine .inr ⟨request, _, whole, fun needs => .inl (sure needs), ?_⟩
        rintro _ _ ⟨⟩
        exact ⟨rfl, rfl⟩

end Submitting

/-- A deployment was created by this request, and leaves other defaults behind than the settings
have. -/
structure Keeps (settings : Settings) (post : Http.Request) (response : Http.Response)
    (kept : Settings) : Prop where
  method : post.method = .post
  success : Http.isSuccess response.status = true
  remembered : ∃ request selection flags t, post.body = some request.toJson ∧
    selection.request flags t = .ok request ∧ settings.remember selection = (true, kept)

/-- Nothing is written but the settings with the defaults of a deployment that was created before:
its request was answered. -/
def Remembers (answers : Http.Request → Http.Response → List (Dialogue.Exchange interface) → Prop)
    (path : String) (settings : Settings) (es : List (Dialogue.Exchange interface)) : Prop :=
  ∃ before answer after post response kept,
    es = before ++ ⟨.file (.write path kept.toText), answer⟩ :: after ∧
    writes before = [] ∧ writes after = [] ∧ answers post response before ∧
    Keeps settings post response kept

def Responds (request : Http.Request) (response : Http.Response)
    (es : List (Dialogue.Exchange interface)) : Prop := (request, .ok response) ∈ traffic es

theorem save_runs {path : String} {settings : Settings} {result : Except DeployError Unit}
    (runs : (onFiles (Storage.saveSettings path settings)).Runs es result) :
    ∃ answer, es = [⟨.file (.write path settings.toText), answer⟩] := by
  obtain ⟨is, inner, relayed⟩ := Dialogue.Runs.relayed runs
  obtain rfl := relayed_onFiles relayed
  obtain ⟨first, answer, rest, asked, ended, rfl⟩ := Dialogue.runs_bind.mp inner
  obtain rfl := Dialogue.runs_query.mp asked
  cases answer with
  | ok done =>
    obtain ⟨rfl, _⟩ := Dialogue.runs_done.mp ended
    exact ⟨_, rfl⟩
  | error fault =>
    obtain ⟨rfl, _⟩ := Dialogue.runs_done.mp ended
    exact ⟨_, rfl⟩

theorem Remembers.after {path : String} {settings : Settings}
    {first : List (Dialogue.Exchange interface)} (remembers : Remembers Responds path settings es)
    (unwritten : writes first = []) : Remembers Responds path settings (first ++ es) := by
  obtain ⟨before, answer, after, post, response, kept, rfl, clean, rest, sent, keeps⟩ := remembers
  refine ⟨first ++ before, answer, after, post, response, kept, by simp, ?_, rest, ?_, keeps⟩
  · rw [writes_append, unwritten, clean, List.nil_append]
  · rw [Responds, traffic_append]
    exact List.mem_append_right _ sent

theorem keepDefaults_runs {path : String} {settings : Settings} {selection : Selection}
    (runs : (keepDefaults path settings selection).Runs es ()) :
    traffic es = [] ∧ settingsRead es = [] ∧
      (writes es = [] ∨ ∃ answer after kept,
        es = ⟨.file (.write path kept.toText), answer⟩ :: after ∧ writes after = [] ∧
          settings.remember selection = (true, kept)) := by
  unfold keepDefaults at runs
  rcases remembered : settings.remember selection with ⟨changed, kept⟩
  rw [remembered] at runs
  cases changed with
  | false =>
    obtain ⟨rfl, _⟩ := Dialogue.runs_done.mp runs
    exact ⟨rfl, rfl, .inl rfl⟩
  | true =>
    obtain ⟨first, result, rest, saves, ended, rfl⟩ := Dialogue.runs_bind.mp runs
    obtain ⟨answer, rfl⟩ := save_runs saves
    cases result with
    | ok done =>
      obtain ⟨rfl, _⟩ := Dialogue.runs_done.mp ended
      exact ⟨rfl, rfl, .inr ⟨answer, [], kept, rfl, rfl, rfl⟩⟩
    | error e =>
      obtain rfl := Dialogue.runs_query.mp ended
      exact ⟨rfl, rfl, .inr ⟨answer, _, kept, rfl, rfl, rfl⟩⟩

section Deploying
variable {args : DeployArguments} {client : Http.Client} {path : String} {settings : Settings}
  {w : Wizard} {r : Except Failure Unit}

theorem dryRun_runs (dry : args.dryRun = true)
    (runs : (deploy args client path settings w).run.Runs es r) :
    ∃ t, (∃ e, w.preview t = .error e ∧ es = [⟨.now, t⟩]) ∨
      ∃ request, w.preview t = .ok request ∧ r = .ok () ∧
        es = [⟨.now, t⟩, ⟨.print (request.toJson.pretty ++ "\n"), ()⟩] := by
  unfold deploy at runs
  rw [if_pos dry] at runs
  obtain ⟨first, t, rest, asked, later, rfl⟩ := runs_perform_then.mp runs
  obtain rfl := Dialogue.runs_query.mp asked
  refine ⟨t, ?_⟩
  obtain ⟨failure, refused, rfl, rfl⟩ | ⟨request, made, prints⟩ := runs_done_then.mp later
  · cases previewed : w.preview t with
    | error e => exact .inl ⟨e, rfl, rfl⟩
    | ok request =>
      rw [previewed] at refused
      contradiction
  · cases previewed : w.preview t with
    | error e =>
      rw [previewed] at made
      contradiction
    | ok given =>
      rw [previewed] at made
      obtain rfl := Except.ok.inj made
      obtain ⟨_, printed, rfl⟩ := runs_perform.mp prints
      obtain rfl := Dialogue.runs_query.mp printed
      exact .inr ⟨_, rfl, rfl, rfl⟩

def conclude (path : String) (settings : Settings) : Option Wizard.Outcome × Wizard → Attempt Unit
  | (none, w) => do
    perform (print "Cancelled\n")
    let _ ← changed w.close
  | (some (.created created), w) => do
    perform (print (createdMessage w.selection created))
    perform (keepDefaults path settings w.selection)
    let _ ← changed w.close
  | (some outcome, _) => throw (.notCreated outcome)

theorem deploy_eq (sends : args.dryRun = false) :
    deploy args client path settings w = (do
      if w.isSubmittable (← perform now) then
        conclude path settings (← submitConfirmed args client w)
      else throw (.incomplete w.selection.resolvedDeviceCount)) := by
  unfold deploy
  rw [if_neg (by simp [sends])]
  apply bind_congr
  intro t
  cases w.isSubmittable t <;> rfl

theorem close_runs (runs : (changed w.close >>= fun _ => (return : Attempt Unit)).run.Runs es r) :
    es = [] := by
  obtain ⟨_, refused, _⟩ | ⟨first, _, rest, closes, ended, rfl⟩ := runs_then.mp runs
  · exact (runs_changed.mp refused).1
  · obtain ⟨rfl, _⟩ := runs_changed.mp closes
    exact (Dialogue.runs_done.mp ended).1

theorem conclude_runs {outcome : Option Wizard.Outcome}
    (runs : (conclude path settings (outcome, w)).run.Runs es r) :
    traffic es = [] ∧ settingsRead es = [] ∧
    (writes es = [] ∨ ∃ created before answer after kept,
      outcome = some (.created created) ∧
      es = before ++ ⟨.file (.write path kept.toText), answer⟩ :: after ∧
      writes before = [] ∧ writes after = [] ∧ settings.remember w.selection = (true, kept)) := by
  unfold conclude at runs
  split at runs
  · obtain ⟨first, _, rest, printed, closes, rfl⟩ := runs_perform_then.mp runs
    obtain rfl := Dialogue.runs_query.mp printed
    obtain rfl := close_runs closes
    exact ⟨rfl, rfl, .inl rfl⟩
  · rename_i created w' same
    obtain ⟨rfl, rfl⟩ := Prod.mk.inj same
    obtain ⟨first, _, rest, printed, keeps, rfl⟩ := runs_perform_then.mp runs
    obtain rfl := Dialogue.runs_query.mp printed
    obtain ⟨second, _, last, saves, closes, rfl⟩ := runs_perform_then.mp keeps
    obtain rfl := close_runs closes
    rw [List.append_nil]
    obtain ⟨silent, unread, none | ⟨answer, after, kept, rfl, unwritten, remembered⟩⟩ :=
      keepDefaults_runs saves
    · exact ⟨silent, unread, .inl none⟩
    · exact ⟨silent, unread,
        .inr ⟨created, _, answer, after, kept, rfl, rfl, rfl, unwritten, remembered⟩⟩
  · obtain ⟨rfl, _⟩ := Dialogue.runs_done.mp runs
    exact ⟨rfl, rfl, .inl rfl⟩

/-- What was sent by a part of a run, and confirmed there, was so by the whole. -/
theorem sent_within (first last : List (Dialogue.Exchange interface))
    {second : List (Dialogue.Exchange interface)} (before : traffic first = [])
    (after : traffic last = [])
    (sent : traffic second = [] ∨
      ∃ request answer, Submitted w second request answer ∧ Confirmed args w second) :
    traffic (first ++ (second ++ last)) = [] ∨ ∃ request answer,
      Submitted w (first ++ (second ++ last)) request answer ∧
        Confirmed args w (first ++ (second ++ last)) := by
  obtain silent | ⟨request, answer, submitted, sure⟩ := sent
  · exact .inl (by simp [before, after, silent])
  · refine .inr ⟨request, answer, ?_, ?_⟩
    · exact submitted.within (fun e found => by simp [found]) (by simp [before, after])
    · intro needs
      obtain yes | ⟨line, read, agreed⟩ := sure needs
      · exact .inl yes
      · exact .inr ⟨line, by simp [read], agreed⟩

theorem remembers_of_created {second last : List (Dialogue.Exchange interface)} {t : Instant}
    {request : DeploymentRequest} {created : CreatedDeployment}
    (submitted : Submitted w second request (.ok created)) (unwritten : writes second = [])
    (kept : ∃ before answer after kept,
      last = before ++ ⟨.file (.write path kept.toText), answer⟩ :: after ∧
      writes before = [] ∧ writes after = [] ∧ settings.remember w.selection = (true, kept)) :
    Remembers Responds path settings ([⟨.now, t⟩] ++ (second ++ last)) := by
  obtain ⟨before, answer, after, kept, rfl, clean, rest, remembered⟩ := kept
  obtain ⟨_, e, impossible⟩ | ⟨post, _, sent, method, body, succeeds⟩ := submitted.creates
  · contradiction
  · obtain ⟨response, rfl, success⟩ := succeeds created rfl
    obtain ⟨now, _, made⟩ := submitted.previewed
    refine ⟨[⟨.now, t⟩] ++ (second ++ before), answer, after, post, response, kept, by simp, ?_, rest,
      ?_, method, success, request, w.selection, w.flags, now, body, made, remembered⟩
    · rw [writes_append, writes_append, unwritten, clean]
      rfl
    · rw [Responds, traffic_append, traffic_append, sent]
      simp

/-- What a deployment comes to, up to its end. -/
structure Deployed (args : DeployArguments) (path : String) (settings : Settings) (w : Wizard)
    (es : List (Dialogue.Exchange interface)) : Prop where
  unread : settingsRead es = []
  dry : args.dryRun = true → traffic es = []
  sent : traffic es = [] ∨ ∃ request answer, Submitted w es request answer ∧ Confirmed args w es
  written : writes es = [] ∨ Remembers Responds path settings es

theorem Deployed.of_idle (unread : settingsRead es = []) (silent : traffic es = [])
    (unwritten : writes es = []) : Deployed args path settings w es :=
  ⟨unread, fun _ => silent, .inl silent, .inl unwritten⟩

/-- A submission that failed leaves nothing to write. -/
theorem deployed_of_failed {second : List (Dialogue.Exchange interface)} {t : Instant}
    {r : Except Failure (Option Wizard.Outcome × Wizard)} (sends : args.dryRun = false)
    (submits : (submitConfirmed args client w).run.Runs second r) :
    Deployed args path settings w (⟨.now, t⟩ :: second) := by
  obtain ⟨unwritten, unread⟩ := files_of_submits
    ((submitConfirmed_asks args client w).exchanges submits)
  refine ⟨unread, by simp [sends], ?_, .inl unwritten⟩
  obtain silent | ⟨request, answer, submitted, sure, _⟩ := submitConfirmed_runs submits
  · exact .inl silent.1
  · have sent := sent_within [⟨.now, t⟩] [] rfl rfl (.inr ⟨request, answer, submitted, sure⟩)
    rwa [List.append_nil] at sent

theorem deployed_of_submitted {second last : List (Dialogue.Exchange interface)} {t : Instant}
    {outcome : Option Wizard.Outcome} {w' : Wizard} (sends : args.dryRun = false)
    (submits : (submitConfirmed args client w).run.Runs second (.ok (outcome, w')))
    (ended : (conclude path settings (outcome, w')).run.Runs last r) :
    Deployed args path settings w ([⟨.now, t⟩] ++ (second ++ last)) := by
  obtain ⟨unwritten, unread⟩ := files_of_submits
    ((submitConfirmed_asks args client w).exchanges submits)
  obtain ⟨silent, unreadToo, kept⟩ := conclude_runs ended
  have clean : settingsRead ([⟨.now, t⟩] ++ (second ++ last)) = [] := by
    rw [settingsRead_append, settingsRead_append, unread, unreadToo]
    rfl
  have unchanged (none : writes last = []) : writes ([⟨.now, t⟩] ++ (second ++ last)) = [] := by
    rw [writes_append, writes_append, unwritten, none]
    rfl
  obtain ⟨unsent, uncreated⟩ | ⟨request, answer, submitted, sure, outcomes⟩ :=
    submitConfirmed_runs submits
  · refine ⟨clean, by simp [sends], sent_within _ _ rfl silent (.inl unsent), .inl (unchanged ?_)⟩
    obtain none | ⟨created, _, _, _, _, rfl, _⟩ := kept
    · exact none
    · exact absurd rfl (uncreated created w')
  · refine ⟨clean, by simp [sends],
      sent_within _ _ rfl silent (.inr ⟨request, answer, submitted, sure⟩), ?_⟩
    obtain none | ⟨created, before, writing, after, kept, rfl, parts⟩ := kept
    · exact .inl (unchanged none)
    · obtain ⟨rfl, same⟩ := outcomes created w' rfl
      rw [same] at parts
      exact .inr (remembers_of_created submitted unwritten ⟨before, writing, after, kept, parts⟩)

theorem deploy_runs (runs : (deploy args client path settings w).run.Runs es r) :
    Deployed args path settings w es := by
  cases dry : args.dryRun with
  | true =>
    obtain ⟨t, ⟨e, _, rfl⟩ | ⟨request, _, _, rfl⟩⟩ := dryRun_runs dry runs
    · exact .of_idle rfl rfl rfl
    · exact .of_idle rfl rfl rfl
  | false =>
    rw [deploy_eq dry] at runs
    obtain ⟨first, t, rest, asked, later, rfl⟩ := runs_perform_then.mp runs
    obtain rfl := Dialogue.runs_query.mp asked
    split at later
    · obtain ⟨failure, submits, _⟩ | ⟨second, ⟨outcome, w'⟩, last, submits, ended, rfl⟩ :=
        runs_then.mp later
      · exact deployed_of_failed dry submits
      · exact deployed_of_submitted dry submits ended
    · obtain ⟨rfl, _⟩ := Dialogue.runs_done.mp later
      exact .of_idle rfl rfl rfl

end Deploying

/-- What keeps a run from creating a deployment, whatever is answered. -/
inductive Forbids (values : Dict String) (es : List (Dialogue.Exchange interface)) : Prop where
  | version (given : values.contains "version" = true)
  | help (given : values.contains "help" = true)
  | nothing (given : values.isEmpty = true)
  | init (given : values.contains "init" = true)
  | rejected {e : DeployError} (refused : DeployArguments.ofValues values = .error e)
  | dryRun (given : flag values "dry-run" = true)
  | unreadable {e : DeployError} (failed : .error e ∈ settingsRead es)
  /-- A confirmation is needed, and none was given. -/
  | unconfirmed {settings : Settings} (read : .ok settings ∈ settingsRead es)
      (needs : settings.needsConfirmation = true) (unsure : flag values "yes" = false)
      (declined : ∀ line ∈ linesRead es, agrees line = false)

def settingsPath (values : Dict String) : String :=
  settingsPathOf (values.get? "settings") (values.get? "config-dir")

/-- What is written where there was nothing: the default settings. -/
def Initializes (values : Dict String) (es : List (Dialogue.Exchange interface)) : Prop :=
  values.contains "init" = true ∧ ∃ fault answer after,
    es = ⟨.file (.examine (settingsPath values)), .error fault⟩ ::
      ⟨.file (.write (settingsPath values) (Settings.toText {})), answer⟩ :: after ∧
    writes after = []

theorem ofValues_eq_ok {values : Dict String} {args : DeployArguments}
    (accepted : DeployArguments.ofValues values = .ok args) :
    args.settingsPath = values.get? "settings" ∧ args.configDirectory = values.get? "config-dir" ∧
      args.dryRun = flag values "dry-run" ∧ args.yes = flag values "yes" := by
  have accepts := ofValues_eq_ok_iff.mp accepted
  exact ⟨accepts.settingsPath, accepts.configDirectory, accepts.dryRun, accepts.yes⟩

theorem posts_of_traffic_eq_nil (silent : traffic es = []) : posts es = [] := by
  rw [posts, requests, silent]
  rfl

theorem posts_length_le {w : Wizard} {request : DeploymentRequest}
    {answer : Except DeployError CreatedDeployment} (submitted : Submitted w es request answer) :
    (posts es).length ≤ 1 := by
  obtain ⟨silent, _⟩ | ⟨post, became, sent, method, _⟩ := submitted.creates
  · simp [posts_of_traffic_eq_nil silent]
  · simp [posts, requests, sent, method]

/-- Without a yes, a wizard that needs one sends nothing. -/
theorem posts_of_unconfirmed {args : DeployArguments} {path : String} {settings : Settings}
    {w : Wizard} (deployed : Deployed args path settings w es)
    (needs : w.options.needsConfirmation = true) (unsure : args.yes = false)
    (declined : ∀ line ∈ linesRead es, agrees line = false) : posts es = [] := by
  obtain silent | ⟨request, answer, _, sure⟩ := deployed.sent
  · exact posts_of_traffic_eq_nil silent
  · obtain yes | ⟨line, heard, agreed⟩ := sure needs
    · rw [unsure] at yes
      contradiction
    · have silent := declined line heard
      rw [agreed] at silent
      contradiction

theorem run_runs {args : DeployArguments} {r : Except Failure Unit}
    (runs : (run args).run.Runs es r) :
    (posts es).length ≤ 1 ∧
    (args.dryRun = true → posts es = []) ∧
    (∀ e, .error e ∈ settingsRead es → posts es = []) ∧
    (∀ settings, .ok settings ∈ settingsRead es → settings.needsConfirmation = true →
      args.yes = false → (∀ line ∈ linesRead es, agrees line = false) → posts es = []) ∧
    (writes es = [] ∨ ∃ settings, Loads es settings ∧ Remembers Responds args.path settings es) := by
  rw [run_eq] at runs
  obtain ⟨failure, begins, rfl⟩ | ⟨first, p, rest, begins, deploys, rfl⟩ := runs_then.mp runs
  · obtain ⟨spares, _⟩ := beginning_runs begins
    have none := posts_of_spares spares
    refine ⟨by simp [none], fun _ => none, fun _ _ => none, fun _ _ _ _ _ => none, .inl ?_⟩
    exact writes_of_spares spares
  · obtain ⟨spares, loading, prepared⟩ := beginning_runs begins
    obtain ⟨settings, loads, fits⟩ := prepared p rfl
    have deployed := deploy_runs deploys
    have early := posts_of_spares spares
    have read : settingsRead (first ++ rest) = settingsRead first := by simp [deployed.unread]
    rw [posts_append, early, List.nil_append, read]
    refine ⟨?_, fun given => posts_of_traffic_eq_nil (deployed.dry given), ?_, ?_, ?_⟩
    · obtain silent | ⟨request, answer, submitted, _⟩ := deployed.sent
      · simp [posts_of_traffic_eq_nil silent]
      · exact posts_length_le submitted
    · intro e failed
      obtain ⟨failure, impossible⟩ := loading e failed
      contradiction
    · intro known member needs unsure declined
      obtain rfl : known = settings := by
        obtain one | ⟨none, _⟩ := loads
        · simpa [one] using member
        · simp [none] at member
      refine posts_of_unconfirmed deployed ?_ unsure fun line heard => declined line (by simp [heard])
      rw [fits.options]
      exact needs
    · obtain none | written := deployed.written
      · exact .inl (by rw [writes_append, writes_of_spares spares, none, List.nil_append])
      · rw [fits.loaded] at written
        refine .inr ⟨settings, ?_, written.after (writes_of_spares spares)⟩
        rw [Loads, read]
        exact loads

theorem exists_runs {path : String} {present : Bool}
    (runs : (onFiles (Storage.fileExists path)).Runs es present) :
    ∃ answer, es = [⟨.file (.examine path), answer⟩] ∧ present = answer.isOk := by
  obtain ⟨is, inner, relayed⟩ := Dialogue.Runs.relayed runs
  obtain rfl := relayed_onFiles relayed
  obtain ⟨answer, rfl, found⟩ := fileExists_runs inner
  exact ⟨answer, rfl, found⟩

theorem init_runs {values : Dict String} {r : Except Failure Unit}
    (given : values.contains "init" = true) (runs : (initSettings values).run.Runs es r) :
    posts es = [] ∧ (writes es = [] ∨ Initializes values es) := by
  unfold initSettings at runs
  obtain ⟨first, present, rest, asks, later, rfl⟩ := runs_perform_then.mp runs
  obtain ⟨examined, rfl, rfl⟩ := exists_runs asks
  cases examined with
  | ok found =>
    obtain ⟨rfl, _⟩ := Dialogue.runs_done.mp later
    exact ⟨rfl, .inl rfl⟩
  | error fault =>
    obtain ⟨second, saved, last, saves, ended, rfl⟩ := runs_perform_then.mp later
    obtain ⟨answer, rfl⟩ := save_runs saves
    obtain ⟨failure, _, rfl, _⟩ | ⟨_, _, prints⟩ := runs_done_then.mp ended
    · exact ⟨rfl, .inr ⟨given, fault, answer, [], rfl, rfl⟩⟩
    · obtain ⟨_, printed, _⟩ := runs_perform.mp prints
      obtain rfl := Dialogue.runs_query.mp printed
      exact ⟨rfl, .inr ⟨given, fault, answer, _, rfl, rfl⟩⟩

/-- How a run ends does not matter for what it created and wrote. -/
structure Idle (es : List (Dialogue.Exchange interface)) : Prop where
  traffic : traffic es = []
  writes : writes es = []
  settings : settingsRead es = []

theorem report_runs {failure : Failure} {exit : Exit} (runs : (report failure).Runs es exit) :
    Idle es := by
  obtain ⟨first, _, rest, complained, ended, rfl⟩ := Dialogue.runs_bind.mp runs
  obtain rfl := Dialogue.runs_query.mp complained
  obtain ⟨rfl, _⟩ := Dialogue.runs_done.mp ended
  exact ⟨rfl, rfl, rfl⟩

theorem init_ending_runs {values : Dict String} {exit : Exit}
    (given : values.contains "init" = true)
    (runs : (do
      match ← (initSettings values).run with
      | .ok () => return .success
      | .error failure => report failure : Program Exit).Runs es exit) :
    posts es = [] ∧ (writes es = [] ∨ Initializes values es) := by
  obtain ⟨first, r, rest, inits, ended, rfl⟩ := Dialogue.runs_bind.mp runs
  have idle : Idle rest := by
    cases r with
    | ok done =>
      obtain ⟨rfl, _⟩ := Dialogue.runs_done.mp ended
      exact ⟨rfl, rfl, rfl⟩
    | error failure => exact report_runs ended
  obtain ⟨silent, written⟩ := init_runs given inits
  refine ⟨by simp [silent, posts_of_traffic_eq_nil idle.traffic], ?_⟩
  obtain none | ⟨_, fault, answer, after, rfl, unwritten⟩ := written
  · exact .inl (by simp [none, idle.writes])
  · refine .inr ⟨given, fault, answer, after ++ rest, rfl, ?_⟩
    rw [writes_append, unwritten, idle.writes]
    rfl

theorem conclusion_runs {r : Except Failure Unit} {exit : Exit}
    (runs : (conclusion r).Runs es exit) : Idle es := by
  obtain ⟨first, _, rest, closed, ending, rfl⟩ := Dialogue.runs_bind.mp runs
  obtain rfl := Dialogue.runs_query.mp closed
  split at ending
  · obtain ⟨rfl, _⟩ := Dialogue.runs_done.mp ending
    exact ⟨rfl, rfl, rfl⟩
  · obtain ⟨rfl, _⟩ := Dialogue.runs_done.mp ending
    exact ⟨rfl, rfl, rfl⟩
  · obtain ⟨noted, _, last, logged, reports, rfl⟩ := Dialogue.runs_bind.mp ending
    obtain rfl := Dialogue.runs_query.mp logged
    have idle := report_runs reports
    exact ⟨idle.traffic, idle.writes, idle.settings⟩

theorem dispatch_eq {values : Dict String} {args : DeployArguments}
    (unversioned : values.contains "version" = false) (unhelped : values.contains "help" = false)
    (given : values.isEmpty = false) (uninitial : values.contains "init" = false)
    (accepted : DeployArguments.ofValues values = .ok args) :
    dispatch values = (run args).run >>= conclusion := by
  rw [dispatch, if_neg (by simp [unversioned]), if_neg (by simp [unhelped, given]),
    if_neg (by simp [uninitial]), accepted]

theorem Remembers.before {path : String} {settings : Settings}
    {last : List (Dialogue.Exchange interface)} (remembers : Remembers Responds path settings es)
    (unwritten : writes last = []) : Remembers Responds path settings (es ++ last) := by
  obtain ⟨before, answer, after, post, response, kept, rfl, clean, rest, others⟩ := remembers
  refine ⟨before, answer, after ++ last, post, response, kept, by simp, clean, ?_, others⟩
  rw [writes_append, rest, unwritten]
  rfl

/-- Only arguments that name a deployment and ask for nothing else lead to the creation of one. -/
theorem dispatch_runs {values : Dict String} {exit : Exit}
    (runs : (dispatch values).Runs es exit) :
    (posts es = [] ∧ (writes es = [] ∨ Initializes values es)) ∨
    ∃ args first rest r, values.contains "version" = false ∧ values.contains "help" = false ∧
      values.isEmpty = false ∧ values.contains "init" = false ∧
      DeployArguments.ofValues values = .ok args ∧ (run args).run.Runs first r ∧ Idle rest ∧
      es = first ++ rest := by
  unfold dispatch at runs
  split at runs
  · obtain ⟨first, _, rest, printed, ended, rfl⟩ := Dialogue.runs_bind.mp runs
    obtain rfl := Dialogue.runs_query.mp printed
    obtain ⟨rfl, _⟩ := Dialogue.runs_done.mp ended
    exact .inl ⟨rfl, .inl rfl⟩
  · split at runs
    · obtain ⟨first, _, rest, printed, ended, rfl⟩ := Dialogue.runs_bind.mp runs
      obtain rfl := Dialogue.runs_query.mp printed
      obtain ⟨rfl, _⟩ := Dialogue.runs_done.mp ended
      exact .inl ⟨rfl, .inl rfl⟩
    · split at runs
      · rename_i given
        exact .inl (init_ending_runs given runs)
      · rename_i unversioned unhelped uninitial
        simp only [Bool.or_eq_true, not_or, Bool.not_eq_true] at unversioned unhelped uninitial
        split at runs
        · obtain ⟨first, _, rest, printed, ended, rfl⟩ := Dialogue.runs_bind.mp runs
          obtain rfl := Dialogue.runs_query.mp printed
          obtain ⟨rfl, _⟩ := Dialogue.runs_done.mp ended
          exact .inl ⟨rfl, .inl rfl⟩
        · rename_i args accepted
          obtain ⟨first, r, rest, ends, ended, rfl⟩ := Dialogue.runs_bind.mp runs
          exact .inr ⟨args, first, rest, r, unversioned, unhelped.1, unhelped.2, uninitial,
            accepted, ends, conclusion_runs ended, rfl⟩

/-- A run creates one deployment at most, and none that arguments, settings or answers forbid. It
writes nothing but the settings file: default settings where there are none, or after a deployment
was created the settings that it was created with, with the defaults that it leaves behind. -/
theorem session_creates_once_if_allowed (arguments : List String) :
    (session arguments).Ensures fun es _ =>
      (posts es).length ≤ 1 ∧
      (Forbids (parse arguments) es → posts es = []) ∧
      (writes es = [] ∨ Initializes (parse arguments) es ∨
        ∃ settings, Loads es settings ∧
          Remembers Responds (settingsPath (parse arguments)) settings es) := by
  apply Dialogue.ensures_iff.mpr
  intro es exit runs
  unfold session at runs
  generalize parse arguments = values at runs ⊢
  obtain ⟨silent, written⟩ | ⟨args, first, rest, r, unversioned, unhelped, given, uninitial,
    accepted, ends, idle, rfl⟩ := dispatch_runs runs
  · exact ⟨by simp [silent], fun _ => silent, written.imp_right .inl⟩
  · obtain ⟨once, dry, unread, unconfirmed, written⟩ := run_runs ends
    obtain ⟨path, directory, wanted, sure⟩ := ofValues_eq_ok accepted
    have same : posts (first ++ rest) = posts first := by
      rw [posts_append, posts_of_traffic_eq_nil idle.traffic, List.append_nil]
    have read : settingsRead (first ++ rest) = settingsRead first := by
      rw [settingsRead_append, idle.settings, List.append_nil]
    rw [same]
    refine ⟨once, ?_, ?_⟩
    · intro forbids
      cases forbids with
      | version asked => exact absurd (unversioned.symm.trans asked) (by decide)
      | help asked => exact absurd (unhelped.symm.trans asked) (by decide)
      | nothing asked => exact absurd (given.symm.trans asked) (by decide)
      | init asked => exact absurd (uninitial.symm.trans asked) (by decide)
      | rejected refused =>
        rw [accepted] at refused
        contradiction
      | dryRun asked => exact dry (wanted.trans asked)
      | unreadable failed => exact unread _ (read ▸ failed)
      | unconfirmed known needs unsure declined =>
        refine unconfirmed _ (read ▸ known) needs (sure.trans unsure) ?_
        intro line heard
        exact declined line (by simp [heard])
    · obtain none | ⟨settings, loads, remembers⟩ := written
      · exact .inl (by rw [writes_append, none, idle.writes]; rfl)
      · refine .inr (.inr ⟨settings, ?_, ?_⟩)
        · rw [Loads, read]
          exact loads
        · rw [settingsPath, ← path, ← directory]
          exact remembers.before idle.writes

end FleetRollout.CommandLine
