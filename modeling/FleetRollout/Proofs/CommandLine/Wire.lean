import FleetRollout.Proofs.CommandLine.Creation
import FleetRollout.Proofs.Http.Redirection

/-! A run and the requests that go out for it. Whatever else it does is the same whether or not its
requests are followed where responses lead. -/
namespace FleetRollout.CommandLine

open Http (AnsweredRequest Followed Repeats creating Locating maxRedirections)

variable {locate : Locating} {es js : List (Dialogue.Exchange interface)}

/-- One run is another one whose requests are followed. -/
abbrev OnWire (locate : Locating) :
    List (Dialogue.Exchange interface) → List (Dialogue.Exchange interface) → Prop :=
  Dialogue.Relayed (I := interface) (J := interface) fun q => answerOnWire locate q

theorem onWire_runs {p : Program α} {a : α} (runs : (onWire locate p).Runs js a) :
    ∃ es, p.Runs es a ∧ OnWire locate es js := Dialogue.Runs.relayed runs

theorem OnWire.append {first rest : List (Dialogue.Exchange interface)}
    (wired : OnWire locate (first ++ rest) js) :
    ∃ js₁ js₂, js = js₁ ++ js₂ ∧ OnWire locate first js₁ ∧ OnWire locate rest js₂ := by
  induction first generalizing js with
  | nil => exact ⟨[], js, rfl, .nil, wired⟩
  | cons e first ih =>
    cases wired with
    | cons asked later =>
      obtain ⟨js₁, js₂, rfl, before, after⟩ := ih later
      exact ⟨_, js₂, (List.append_assoc _ _ _).symm, .cons asked before, after⟩

/-- Only requests are followed. -/
theorem answerOnWire_eq {q : Question} (other : ∀ request, q ≠ .exchange request) :
    answerOnWire locate q = .query (I := interface) q := by
  cases q with
  | exchange request => exact absurd rfl (other request)
  | _ => rfl

theorem OnWire.cons_of_ne {e : Dialogue.Exchange interface}
    (wired : OnWire locate (e :: es) js) (other : ∀ request, e.question ≠ .exchange request) :
    ∃ later, js = e :: later ∧ OnWire locate es later := by
  cases wired with
  | @cons _ block _ later asked rest =>
    rw [answerOnWire_eq other] at asked
    obtain rfl := Dialogue.runs_query.mp asked
    exact ⟨later, rfl, rest⟩

/-- Requests of a client, each followed where responses lead. -/
inductive Carried (locate : Locating) : List AnsweredRequest → List AnsweredRequest → Prop where
  | nil : Carried locate [] []
  | cons {r : Http.Request} {answer : Except HttpFault Http.Response}
      {chain asked sent : List AnsweredRequest}
      (followed : Followed locate maxRedirections r chain answer) (rest : Carried locate asked sent) :
      Carried locate ((r, answer) :: asked) (chain ++ sent)

/-- What a single question comes to on the wire. -/
theorem answerOnWire_runs {e : Dialogue.Exchange interface}
    (runs : (answerOnWire locate e.question).Runs js e.answer) :
    (∃ request answer, e = ⟨.exchange request, answer⟩ ∧
      Followed locate maxRedirections request (traffic js) answer ∧
      ∀ j ∈ js, j.question.Talks) ∨
    (∀ request, e.question ≠ .exchange request) ∧ js = [e] := by
  obtain ⟨q, answer⟩ := e
  by_cases sends : ∃ request, q = .exchange request
  · obtain ⟨request, rfl⟩ := sends
    refine .inl ⟨request, answer, rfl, ?_, (onHttp_talks _).exchanges runs⟩
    obtain ⟨is, inner, relayed⟩ := Dialogue.Runs.relayed runs
    rw [traffic_onHttp relayed]
    exact Dialogue.ensures_iff.mp (Http.follow_ensures locate maxRedirections request) _ _ inner
  · have other : ∀ request, q ≠ .exchange request := fun request same => sends ⟨request, same⟩
    refine .inr ⟨other, ?_⟩
    dsimp only at runs
    rw [answerOnWire_eq other] at runs
    exact Dialogue.runs_query.mp runs

theorem answeredRequest?_of_ne {e : Dialogue.Exchange interface}
    (other : ∀ request, e.question ≠ .exchange request) : answeredRequest? e = none := by
  obtain ⟨q, answer⟩ := e
  cases q with
  | exchange request => exact absurd rfl (other request)
  | _ => rfl

theorem OnWire.carried (wired : OnWire locate es js) : Carried locate (traffic es) (traffic js) := by
  induction wired with
  | nil => exact .nil
  | @cons e block es later asked rest ih =>
    rw [traffic_append]
    obtain ⟨request, answer, rfl, followed, _⟩ | ⟨other, rfl⟩ := answerOnWire_runs asked
    · exact .cons followed ih
    · have silent : traffic [e] = [] := by
        simp [traffic, answeredRequest?_of_ne other]
      have same : traffic (e :: es) = traffic es :=
        List.filterMap_cons_none (answeredRequest?_of_ne other)
      rwa [silent, same]

/-- What has nothing to do with requests is the same. -/
theorem OnWire.filterMap_eq {f : Dialogue.Exchange interface → Option β}
    (ignores : ∀ e, e.question.Talks → f e = none) (wired : OnWire locate es js) :
    js.filterMap f = es.filterMap f := by
  induction wired with
  | nil => rfl
  | @cons e block es later asked rest ih =>
    rw [List.filterMap_append, ih]
    obtain ⟨request, answer, rfl, _, talks⟩ | ⟨_, rfl⟩ := answerOnWire_runs asked
    · have silent : block.filterMap f = [] :=
        List.filterMap_eq_nil_iff.mpr fun j found => ignores j (talks j found)
      rw [silent, List.nil_append, List.filterMap_cons_none]
      exact ignores ⟨.exchange request, answer⟩ trivial
    · exact List.filterMap_append.symm

theorem OnWire.writes_eq (wired : OnWire locate es js) : writes js = writes es := by
  refine wired.filterMap_eq ?_
  rintro ⟨q, answer⟩ talks
  cases q with
  | file question => exact talks.elim
  | _ => rfl

theorem OnWire.settingsRead_eq (wired : OnWire locate es js) : settingsRead js = settingsRead es := by
  refine wired.filterMap_eq ?_
  rintro ⟨q, answer⟩ talks
  cases q with
  | file question => exact talks.elim
  | _ => rfl

theorem OnWire.linesRead_eq (wired : OnWire locate es js) : linesRead js = linesRead es := by
  refine wired.filterMap_eq ?_
  rintro ⟨q, answer⟩ talks
  cases q with
  | readLine => exact talks.elim
  | _ => rfl

theorem Carried.creating_eq_nil {asked sent : List AnsweredRequest}
    (carried : Carried locate asked sent) (idle : creating asked = []) : creating sent = [] := by
  induction carried with
  | nil => rfl
  | @cons r answer chain asked sent followed rest ih =>
    cases method : r.method with
    | post => simp [creating, method] at idle
    | get =>
      have others : creating asked = [] := by simpa [creating, method] using idle
      rw [Http.creating_append, Http.creating_eq_nil (followed.gets method), ih others]
      rfl

/-- If a client asks for one creation at most, all that goes out is that request and its
repetitions. -/
theorem Carried.creates_once {asked sent : List AnsweredRequest} (carried : Carried locate asked sent)
    (once : (creating asked).length ≤ 1) :
    (creating sent).length ≤ maxRedirections + 1 ∧ (creating sent).IsChain (Repeats locate) := by
  induction carried with
  | nil => exact ⟨Nat.zero_le _, .nil⟩
  | @cons r answer chain asked sent followed rest ih =>
    cases method : r.method with
    | get =>
      have others : creating ((r, answer) :: asked) = creating asked := by simp [creating, method]
      rw [others] at once
      rw [Http.creating_append, Http.creating_eq_nil (followed.gets method), List.nil_append]
      exact ih once
    | post =>
      have others : creating asked = [] := by
        have shown : creating ((r, answer) :: asked) = (r, answer) :: creating asked := by
          simp [creating, method]
        rw [shown, List.length_cons] at once
        exact List.eq_nil_of_length_eq_zero (by omega)
      rw [Http.creating_append, rest.creating_eq_nil others, List.append_nil]
      exact ⟨(List.length_filter_le _ _).trans followed.length_le, followed.creating_isChain.1⟩

theorem Carried.mem {asked sent : List AnsweredRequest} {r : Http.Request}
    {answer : Except HttpFault Http.Response} (carried : Carried locate asked sent)
    (found : (r, answer) ∈ asked) :
    ∃ chain, Followed locate maxRedirections r chain answer ∧ chain <:+: sent := by
  induction carried with
  | nil => contradiction
  | @cons _ _ chain _ sent followed _ ih =>
    obtain same | later := List.mem_cons.mp found
    · obtain ⟨rfl, rfl⟩ := Prod.mk.inj same
      exact ⟨chain, followed, (List.prefix_append chain sent).isInfix⟩
    · obtain ⟨other, followed, within⟩ := ih later
      exact ⟨other, followed, within.trans (List.suffix_append chain sent).isInfix⟩

/-- The response that a request was followed to. -/
def LeadsTo (locate : Locating) (request : Http.Request) (response : Http.Response)
    (es : List (Dialogue.Exchange interface)) : Prop :=
  ∃ chain, Followed locate maxRedirections request chain (.ok response) ∧ chain <:+: traffic es

theorem posts_eq (es : List (Dialogue.Exchange interface)) :
    posts es = (creating (traffic es)).map Prod.fst := by
  rw [posts, requests, creating, List.filter_map]
  rfl

theorem OnWire.remembers {path : String} {settings : Settings} (wired : OnWire locate es js)
    (remembers : Remembers Responds path settings es) :
    Remembers (LeadsTo locate) path settings js := by
  obtain ⟨before, answer, after, post, response, kept, rfl, clean, rest, responds, keeps⟩ := remembers
  obtain ⟨first, later, rfl, wiredBefore, wiredAfter⟩ := wired.append
  obtain ⟨last, rfl, wiredLast⟩ := wiredAfter.cons_of_ne nofun
  exact ⟨first, answer, last, post, response, kept, rfl, wiredBefore.writes_eq.trans clean,
    wiredLast.writes_eq.trans rest, wiredBefore.carried.mem responds, keeps⟩

theorem OnWire.initializes {values : Dict String} (wired : OnWire locate es js)
    (initializes : Initializes values es) : Initializes values js := by
  obtain ⟨given, fault, answer, after, rfl, rest⟩ := initializes
  obtain ⟨first, rfl, wiredWrite⟩ := wired.cons_of_ne nofun
  obtain ⟨last, rfl, wiredRest⟩ := wiredWrite.cons_of_ne nofun
  exact ⟨given, fault, answer, last, rfl, wiredRest.writes_eq.trans rest⟩

theorem OnWire.forbids {values : Dict String} (wired : OnWire locate es js)
    (forbids : Forbids values js) : Forbids values es := by
  cases forbids with
  | version given => exact .version given
  | help given => exact .help given
  | nothing given => exact .nothing given
  | init given => exact .init given
  | rejected refused => exact .rejected refused
  | dryRun given => exact .dryRun given
  | unreadable failed => exact .unreadable (wired.settingsRead_eq ▸ failed)
  | unconfirmed read needs unsure declined =>
    refine .unconfirmed (wired.settingsRead_eq ▸ read) needs unsure ?_
    rw [← wired.linesRead_eq]
    exact declined

end FleetRollout.CommandLine
