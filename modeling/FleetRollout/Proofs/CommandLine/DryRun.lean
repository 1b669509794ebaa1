import FleetRollout.Proofs.CommandLine.Creation
import FleetRollout.Proofs.CommandLine.Defining
import FleetRollout.Proofs.Deployment.Request
import FleetRollout.Proofs.Selection.Contents

/-! A dry run beside the run that it stands for. In the same surroundings both do the same up to the
prepared selection; where the one submits it, the other shows the request. -/
namespace FleetRollout

namespace Dialogue
variable {I : Interface} {α β : Type}

/-- Who answers the questions of a program, with regard to all that was answered before. -/
abbrev Surroundings (I : Interface) := List (Exchange I) → (q : I.Question) → I.Answer q

/-- What a program does in some surroundings after some exchanges, and its result. -/
def transcript (world : Surroundings I) : List (Exchange I) → Dialogue I α → List (Exchange I) × α
  | _, .done a => ([], a)
  | past, .ask q next =>
    let answer := world past q
    let later := transcript world (past ++ [⟨q, answer⟩]) (next answer)
    (⟨q, answer⟩ :: later.1, later.2)

theorem transcript_runs (world : Surroundings I) (past : List (Exchange I)) (p : Dialogue I α) :
    p.Runs (p.transcript world past).1 (p.transcript world past).2 := by
  induction p generalizing past with
  | done a => exact .done a
  | ask q next ih => exact .ask _ (ih _ _)

variable {world : Surroundings I} {past : List (Exchange I)}

theorem transcript_bind (p : Dialogue I α) (f : α → Dialogue I β) :
    (p >>= f).transcript world past =
      let first := p.transcript world past
      let rest := (f first.2).transcript world (past ++ first.1)
      (first.1 ++ rest.1, rest.2) := by
  induction p generalizing past with
  | done a => simp [transcript]
  | ask q next ih => simp [transcript, ih]

theorem answer_of_mem_transcript {p : Dialogue I α} {e : Exchange I}
    (found : e ∈ (p.transcript world past).1) : ∃ before, e.answer = world before e.question := by
  induction p generalizing past with
  | done a => contradiction
  | ask q next ih =>
    obtain rfl | later := List.mem_cons.mp found
    · exact ⟨past, rfl⟩
    · exact ih _ later

end Dialogue

namespace CommandLine
variable {es later : List (Dialogue.Exchange interface)}

def printed? : Dialogue.Exchange interface → Option String
  | ⟨.print text, _⟩ => some text
  | _ => none

def printed (es : List (Dialogue.Exchange interface)) : List String := es.filterMap printed?

@[simp] theorem printed_append : printed (es ++ later) = printed es ++ printed later :=
  List.filterMap_append

section Arguments
variable {values : Dict String}

/-- The values of the same arguments with a dry run asked for. -/
def withDryRun (values : Dict String) : Dict String := values.insert "dry-run" "true"

theorem parse_dryRun (arguments : List String) :
    parse (arguments ++ ["--dry-run"]) = withDryRun (parse arguments) := by
  have defines : Defines "--dry-run" "dry-run" "true" := definition?_eq_some.mp (by decide)
  exact parse_concat_of_defines arguments defines

theorem get?_withDryRun {key : String} (other : key ≠ "dry-run") :
    (withDryRun values).get? key = values.get? key := by
  rw [withDryRun, Dict.get?_insert, if_neg other.symm]

theorem flag_withDryRun : flag (withDryRun values) "dry-run" = true := by
  rw [flag, withDryRun, Dict.get?_insert, if_pos rfl]
  decide

theorem isEmpty_withDryRun : (withDryRun values).isEmpty = false := by
  have found : (withDryRun values).get? "dry-run" = some "true" := by
    rw [withDryRun, Dict.get?_insert, if_pos rfl]
  cases entries : (withDryRun values).entries with
  | nil =>
    rw [Dict.get?, entries] at found
    contradiction
  | cons e rest => rw [Dict.isEmpty, entries, List.isEmpty_cons]

theorem contains_withDryRun {key : String} (other : key ≠ "dry-run") :
    (withDryRun values).contains key = values.contains key := by
  rw [Dict.contains, Dict.contains, get?_withDryRun other]

/-- Nothing else that the arguments say depends on whether a dry run is asked for. -/
theorem ofValues_withDryRun :
    DeployArguments.ofValues (withDryRun values) =
      (DeployArguments.ofValues values).map fun args => { args with dryRun := true } := by
  have release : releaseArgument (withDryRun values) = releaseArgument values := by
    simp [releaseArgument, get?_withDryRun]
  have target : targetArgument (withDryRun values) = targetArgument values := by
    simp [targetArgument, flag, get?_withDryRun]
  have phases : phasesArgument (withDryRun values) = phasesArgument values := by
    simp [phasesArgument, asksForPrevious, get?_withDryRun]
  have retries : number Text.readUInt32 (withDryRun values) "retries" =
      number Text.readUInt32 values "retries" := by
    simp [number, get?_withDryRun]
  have maxDevices : number Text.readUInt64 (withDryRun values) "max-devices" =
      number Text.readUInt64 values "max-devices" := by
    simp [number, get?_withDryRun]
  have flags {key : String} (other : key ≠ "dry-run") :
      flag (withDryRun values) key = flag values key := by
    rw [flag, flag, get?_withDryRun other]
  have previous : asksForPrevious (withDryRun values) = asksForPrevious values := by
    rw [asksForPrevious, asksForPrevious, get?_withDryRun (by decide)]
  unfold DeployArguments.ofValues
  rw [release, target, phases, retries, maxDevices, previous, flag_withDryRun,
    get?_withDryRun (by decide), get?_withDryRun (by decide), get?_withDryRun (by decide),
    flags (by decide), flags (by decide), flags (by decide), flags (by decide)]
  cases releaseArgument values with
  | error e => rfl
  | ok release =>
    cases targetArgument values with
    | error e => rfl
    | ok target =>
      cases phasesArgument values with
      | error e => rfl
      | ok phases =>
        cases number Text.readUInt32 values "retries" with
        | error e => rfl
        | ok retries =>
          cases number Text.readUInt64 values "max-devices" with
          | error e => rfl
          | ok maxDevices => rfl

end Arguments

theorem printed_of_connects (connects : ∀ e ∈ es, e.question.Connects) : printed es = [] := by
  apply List.filterMap_eq_nil_iff.mpr
  rintro ⟨q, answer⟩ found
  cases q with
  | print text => exact (connects _ found).elim
  | _ => rfl

/-- Nothing is printed before the selection is made. -/
theorem beginning_silent {args : DeployArguments} {r : Except Failure Prepared}
    (runs : (beginning args).run.Runs es r) : printed es = [] := by
  obtain ⟨first, loaded, rest, loads, later, rfl⟩ := runs_perform_then.mp runs
  obtain ⟨is, _, relayed⟩ := Dialogue.Runs.relayed loads
  have files : printed first = [] := by
    rw [relayed_onFiles relayed]
    exact List.filterMap_eq_nil_iff.mpr (by simp [printed?])
  rw [printed_append, files, List.nil_append]
  obtain ⟨_, _, rfl, _⟩ | ⟨settings, _, connects⟩ := runs_done_then.mp later
  · rfl
  · exact printed_of_connects ((setUp_asks args settings).exchanges connects)

section Runs
variable {world : Dialogue.Surroundings interface} {past first : List (Dialogue.Exchange interface)}
  {clock : Instant} {args : DeployArguments} {p : Prepared}

theorem traffic_conclusion (r : Except Failure Unit) :
    traffic ((conclusion r).transcript world past).1 = [] :=
  (conclusion_runs (Dialogue.transcript_runs world past _)).traffic

theorem requests_conclusion (r : Except Failure Unit) :
    requests ((conclusion r).transcript world past).1 = [] :=
  congrArg (List.map Prod.fst) (traffic_conclusion r)

theorem transcript_conclusion_ok :
    (conclusion (.ok ())).transcript world past = ([⟨.closeLogFile, ()⟩], .success) := rfl

theorem transcript_run_ok (begun : (beginning args).run.transcript world past = (first, .ok p)) :
    (run args).run.transcript world past =
      let rest := (deploy args p.client args.path p.settings p.wizard).run.transcript world
        (past ++ first)
      (first ++ rest.1, rest.2) := by
  rw [run_eq, run_bind, Dialogue.transcript_bind, begun]

theorem transcript_run_error {failure : Failure}
    (begun : (beginning args).run.transcript world past = (first, .error failure)) :
    (run args).run.transcript world past = (first, .error failure) := by
  rw [run_eq, run_bind, Dialogue.transcript_bind, begun]
  simp [Dialogue.transcript]

/-- A run that creates something makes its selection and submits the request for it. -/
theorem creating_transcript (still : ∀ before, world before .now = clock)
    (creates : posts ((run args).run.transcript world past).1 ≠ []) :
    ∃ first p request post, (beginning args).run.transcript world past = (first, .ok p) ∧
      p.wizard.preview clock = .ok request ∧
      requests ((run args).run.transcript world past).1 = requests first ++ [post] ∧
      post.method = .post ∧ post.body = some request.toJson := by
  have begins := Dialogue.transcript_runs world past (beginning args).run
  rcases begun : (beginning args).run.transcript world past with ⟨first, failure | p⟩
  · rw [begun] at begins
    rw [transcript_run_error begun] at creates
    exact absurd (posts_of_spares (beginning_runs begins).1) creates
  · rw [begun] at begins
    rw [transcript_run_ok begun, posts_append, posts_of_spares (beginning_runs begins).1,
      List.nil_append] at creates
    have deploys := Dialogue.transcript_runs world (past ++ first)
      (deploy args p.client args.path p.settings p.wizard).run
    obtain silent | ⟨request, answer, submitted, _⟩ := (deploy_runs deploys).sent
    · exact absurd (posts_of_traffic_eq_nil silent) creates
    · obtain ⟨silent, _⟩ | ⟨post, became, sent, method, body, _⟩ := submitted.creates
      · exact absurd (posts_of_traffic_eq_nil silent) creates
      · obtain ⟨t, asked, made⟩ := submitted.previewed
        obtain ⟨before, same⟩ := Dialogue.answer_of_mem_transcript asked
        obtain rfl : t = clock := same.trans (still before)
        refine ⟨first, p, request, post, rfl, made, ?_, method, body⟩
        rw [transcript_run_ok begun, requests_append]
        congr 1
        rw [requests, sent]
        rfl

/-- A dry run makes the same selection and shows the request for it. -/
theorem dryRun_transcript {request : DeploymentRequest}
    (still : ∀ before, world before .now = clock)
    (begun : (beginning args).run.transcript world past = (first, .ok p))
    (made : p.wizard.preview clock = .ok request) :
    (run { args with dryRun := true }).run.transcript world past =
      (first ++ [⟨.now, clock⟩, ⟨.print (request.toJson.pretty ++ "\n"), ()⟩], .ok ()) := by
  have same : beginning { args with dryRun := true } = beginning args := rfl
  rw [← same] at begun
  rw [transcript_run_ok begun]
  have deploys := Dialogue.transcript_runs world (past ++ first)
    (deploy { args with dryRun := true } p.client args.path p.settings p.wizard).run
  obtain ⟨t, shown⟩ := dryRun_runs rfl deploys
  have asked : (⟨.now, t⟩ : Dialogue.Exchange interface) ∈ ((deploy { args with dryRun := true }
      p.client args.path p.settings p.wizard).run.transcript world (past ++ first)).1 := by
    obtain ⟨_, _, es⟩ | ⟨_, _, _, es⟩ := shown
    · simp [es]
    · simp [es]
  obtain ⟨before, answer⟩ := Dialogue.answer_of_mem_transcript asked
  obtain rfl : t = clock := answer.trans (still before)
  obtain ⟨e, refused, _⟩ | ⟨_, accepted, ended, shown⟩ := shown
  · rw [made] at refused
    contradiction
  · rw [made] at accepted
    obtain rfl := Except.ok.inj accepted
    exact Prod.ext (congrArg (first ++ ·) shown) ended

end Runs

/-- A dry run that stands for a run: it sends the same except for the request at the end, which
creates a deployment, and prints a text that reads as the content of that request. -/
structure Shows (dry : List (Dialogue.Exchange interface) × Exit)
    (es : List (Dialogue.Exchange interface)) (post : Http.Request) (request : DeploymentRequest) :
    Prop where
  sent : requests es = requests dry.1 ++ [post]
  method : post.method = .post
  body : post.body = some request.toJson
  unsent : posts dry.1 = []
  success : dry.2 = .success
  shown : ∃ text, printed dry.1 = [text] ∧ DeploymentRequest.read.ofString? text = some request

/-- If a run creates a deployment, then in the same surroundings, where the clock stands still, a
dry run of the same arguments shows the request for it. -/
theorem dry_run_shows_request (world : Dialogue.Surroundings interface) (clock : Instant)
    (arguments : List String) (still : ∀ before, world before .now = clock)
    (creates : posts ((session arguments).transcript world []).1 ≠ []) :
    ∃ post request, Shows ((session (arguments ++ ["--dry-run"])).transcript world [])
      ((session arguments).transcript world []).1 post request := by
  unfold session at creates ⊢
  rw [parse_dryRun]
  generalize parse arguments = values at creates ⊢
  obtain ⟨silent, _⟩ | ⟨args, _, _, _, unversioned, unhelped, given, uninitial, accepted, _⟩ :=
    dispatch_runs (Dialogue.transcript_runs world [] (dispatch values))
  · exact absurd silent creates
  · have real := dispatch_eq unversioned unhelped given uninitial accepted
    have dry : dispatch (withDryRun values) =
        (run { args with dryRun := true }).run >>= conclusion := by
      apply dispatch_eq
      · rwa [contains_withDryRun (by decide)]
      · rwa [contains_withDryRun (by decide)]
      · exact isEmpty_withDryRun
      · rwa [contains_withDryRun (by decide)]
      · rw [ofValues_withDryRun, accepted]
        rfl
    rw [real, Dialogue.transcript_bind] at creates ⊢
    rw [posts_append, posts_of_traffic_eq_nil (traffic_conclusion _), List.append_nil] at creates
    obtain ⟨first, p, request, post, begun, made, sent, method, body⟩ :=
      creating_transcript still creates
    have begins := Dialogue.transcript_runs world [] (beginning args).run
    rw [begun] at begins
    obtain ⟨spares, _, prepared⟩ := beginning_runs begins
    obtain ⟨settings, _, fits⟩ := prepared p rfl
    have plain : request.updateControlMap = none :=
      (Selection.request_carries made).updateControlMap.trans fits.unmapped
    have dryRun : (dispatch (withDryRun values)).transcript world [] =
        (first ++ [⟨.now, clock⟩, ⟨.print (request.toJson.pretty ++ "\n"), ()⟩,
          ⟨.closeLogFile, ()⟩], .success) := by
      rw [dry, Dialogue.transcript_bind, dryRun_transcript still begun made]
      simp only [List.nil_append]
      rw [transcript_conclusion_ok, List.append_assoc]
      rfl
    rw [dryRun]
    refine ⟨post, request, ?_, method, body, ?_, rfl, _, ?_,
      DeploymentRequest.ofString?_pretty plain⟩
    · rw [requests_append, requests_conclusion, List.append_nil, sent, requests_append]
      exact congrArg (· ++ [post]) (List.append_nil _).symm
    · rw [posts_append, posts_of_spares spares]
      rfl
    · rw [printed_append, beginning_silent begins]
      rfl

/-- Surroundings without files, where nothing but creating a deployment succeeds. -/
def creationOnly : Dialogue.Surroundings interface
  | _, .print _ | _, .complain _ | _, .log _ | _, .closeLogFile => ()
  | _, .startLog _ => .ok ()
  | _, .readLine => ""
  | _, .environment _ => some "token"
  | _, .now => .epoch
  | _, .file (.examine _) => .error .notFound
  | _, .file (.read _) => .ok ""
  | _, .file (.write _ _) => .ok ()
  | _, .exchange request =>
    if request.method = .post then .ok { status := 201 } else .error .unreachable

theorem dry_run_shows_request_for_devices :
    (∀ before, creationOnly before .now = .epoch) ∧
    posts ((session ["--release=v2", "--devices=a,b"]).transcript creationOnly []).1 ≠ [] ∧
    ∃ post request, Shows
      ((session (["--release=v2", "--devices=a,b"] ++ ["--dry-run"])).transcript creationOnly [])
      ((session ["--release=v2", "--devices=a,b"]).transcript creationOnly []).1 post request := by
  have still : ∀ before, creationOnly before .now = .epoch := fun _ => rfl
  have creates :
      posts ((session ["--release=v2", "--devices=a,b"]).transcript creationOnly []).1 ≠ [] := by
    have one :
        (posts ((session ["--release=v2", "--devices=a,b"]).transcript creationOnly []).1).length =
          1 := by
      decide +kernel
    exact List.ne_nil_of_length_pos (by omega)
  exact ⟨still, creates, dry_run_shows_request creationOnly .epoch _ still creates⟩

end CommandLine
end FleetRollout
