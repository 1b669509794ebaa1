import FleetRollout.Proofs.Selection.Contents
import FleetRollout.Proofs.Wizard.Asking
import FleetRollout.Proofs.Wizard.Choices

/-! What a tenant may do, over whole histories: whichever way phases, retries and targets get into a
selection, no request asks for more than the options and the loaded configuration allow. -/
namespace FleetRollout

/-- A request asks for no more than a tenant may have; `deltas` tells whether delta artifacts are
generated. -/
structure DeploymentRequest.Within (r : DeploymentRequest) (options : Wizard.Options)
    (deltas : Bool) (s : Selection) : Prop where
  phases : r.phases ≠ none → options.canSchedule = true
  retries : ∀ n, r.retries = some n → options.canRetry = true ∧ n = s.retries ∧ 0 < n
  deltas : r.autogenerateDelta = true → deltas = true
  maxDevices : ∀ n, r.maxDevices = some n → 0 < n

namespace Wizard
variable {w w' : Wizard} {operation : Operation} {reply : Reply} {turns : List Turn}

theorem Effect.options (effect : Effect w operation reply w') : w'.options = w.options := by
  cases effect with
  | opened => simp [restarted]
  | targeted editable available settles => simp [settles]
  | accepted settles | devices settles | groups settles => simp [settles]
  | loaded => simp
  | counted | refreshed => simp [withCount]
  | sent answer => cases answer <;> rfl
  | _ => rfl

theorem Step.options (step : Step w move w') : w'.options = w.options := by
  cases step with
  | perform runs => exact (Step.effect (.perform runs)).options
  | guard use => rfl

theorem History.options {options : Options} (history : History (new options) turns w) :
    w.options = options := by
  induction history with
  | start => rfl
  | next _ step ih => exact step.options.trans ih

/-- What was chosen is within the capabilities of the tenant. -/
structure Permitted (w : Wizard) : Prop where
  filters : ∀ f, w.selection.target = .filter f → w.options.hasFullFiltering = true
  phases : w.selection.isPhased = true → w.options.canSchedule = true

theorem Permitted.of_chosen_eq (permitted : Permitted w) (options : w'.options = w.options)
    (chosen : w'.selection.chosen = w.selection.chosen) : Permitted w' := by
  constructor
  · rw [Selection.target_eq_of_chosen_eq chosen, options]
    exact permitted.filters
  · rw [Selection.isPhased, Selection.rollout?, Selection.phases_eq_of_chosen_eq chosen, options]
    exact permitted.phases

theorem Permitted.settled (permitted : Permitted w) : Permitted w.settled :=
  permitted.of_chosen_eq (settled_options w) (by simp)

theorem Permitted.choose {choice : Selection → Selection} (permitted : Permitted w)
    (plain : operation.choice? = some choice) :
    Permitted { w with selection := choice w.selection } := by
  cases operation with
  | setRetries | setSaveRetriesDefault | setForceInstall | setDelta | setMaxDevices
  | setUpdateControlMap =>
    obtain rfl := Option.some.inj plain
    exact ⟨permitted.filters, permitted.phases⟩
  | _ => contradiction

theorem Permitted.setTarget {target : Target} (permitted : Permitted w)
    (available : target.mode = some .savedFilter → w.options.hasFullFiltering = true) :
    Permitted { w with selection := w.selection.setTarget target } := by
  constructor
  · intro f picked
    have same : target = .filter f := by simpa using picked
    exact available (by rw [same]; rfl)
  · intro phased
    have kept : (w.selection.setTarget target).phases = w.selection.phases := by
      unfold Selection.setTarget
      split <;> rfl
    rw [Selection.isPhased, Selection.rollout?, kept] at phased
    exact permitted.phases phased

theorem Effect.permitted (effect : Effect w operation reply w') (permitted : Permitted w) :
    Permitted w' := by
  cases effect with
  | refused | notLoaded | notCounted | notRefreshed | unsent => exact permitted
  | opened => exact Permitted.settled ⟨nofun, nofun⟩
  | closed => exact ⟨nofun, nofun⟩
  | released => exact ⟨permitted.filters, permitted.phases⟩
  | targeted editable available settles =>
    rw [settles]
    exact (permitted.setTarget available).settled
  | @phased phases editable available =>
    refine ⟨permitted.filters, ?_⟩
    intro phased
    obtain ⟨given, rollout⟩ := Option.isSome_iff_exists.mp phased
    obtain ⟨same, nonempty⟩ := Selection.rollout?_eq_some.mp rollout
    obtain rfl : phases = some given := same
    exact available (by simpa using nonempty)
  | rephased editable saved nonempty available => exact ⟨permitted.filters, fun _ => available⟩
  | chosen editable plain => exact permitted.choose plain
  | accepted settles | devices settles | groups settles =>
    rw [settles]
    exact Permitted.settled ⟨permitted.filters, permitted.phases⟩
  | loaded | counted | refreshed => exact Permitted.settled ⟨permitted.filters, permitted.phases⟩
  | sent answer => cases answer <;> exact ⟨permitted.filters, permitted.phases⟩

theorem Step.permitted (step : Step w move w') (permitted : Permitted w) : Permitted w' := by
  cases step with
  | perform runs => exact (Step.effect (.perform runs)).permitted permitted
  | guard use => exact ⟨permitted.filters, permitted.phases⟩

theorem History.permitted {options : Options} (history : History (new options) turns w) :
    Permitted w := by
  induction history with
  | start => exact ⟨nofun, nofun⟩
  | next _ step ih => exact step.permitted ih

theorem Step.opened {exchanges : List (Dialogue.Exchange interface)}
    (step : Step w (.perform .open exchanges .done) w') :
    ∃ lifecycle, ∃ o : Opening, w.lifecycle.process .open = .ok lifecycle ∧
      answeredCalls exchanges = o.calls w.options ∧ w' = w.opened lifecycle o := by
  cases step with
  | perform runs =>
    have ended := Dialogue.ensures_iff.mp (perform_open_ensures w) _ _ runs
    cases opening : w.lifecycle.process .open with
    | error e =>
      simp only [opening] at ended
      cases ended.2
    | ok lifecycle =>
      simp only [opening] at ended
      obtain ⟨o, asked, same⟩ := ended
      exact ⟨lifecycle, o, rfl, asked, congrArg Prod.snd same⟩

def generatesDeltas : AnsweredCall → Bool
  | ⟨.deploymentsConfig, .ok (config : DeploymentsConfig)⟩ => config.delta.enabled
  | _ => false

theorem Opening.any_generatesDeltas (o : Opening) (options : Options) :
    (o.calls options).any generatesDeltas = o.deltas := by
  unfold Opening.calls Opening.filterCalls Opening.deltas
  cases o.config <;> split <;> simp [generatesDeltas, Except.toOption]

def Turn.loadedDeltas (before : Bool) (turn : Turn) : Bool :=
  match turn.move with
  | .perform .open exchanges .done => (answeredCalls exchanges).any generatesDeltas
  | _ => before

def loadedDeltas (turns : List Turn) : Bool := turns.foldl Turn.loadedDeltas false

theorem Step.hasDelta {move : Move} (step : Step w move w') :
    w'.hasDelta = (Turn.mk w move w').loadedDeltas w.hasDelta := by
  cases step with
  | guard use => rfl
  | @perform operation exchanges reply _ runs =>
    have step := Step.perform runs
    have effect : Effect w operation reply w' := step.effect
    cases effect with
    | opened =>
      obtain ⟨lifecycle, o, _, asked, same⟩ := step.opened
      rw [same]
      simp only [Turn.loadedDeltas, asked, o.any_generatesDeltas]
      exact settled_hasDelta _
    | refused => cases operation <;> rfl
    | chosen editable plain => cases operation <;> first | rfl | contradiction
    | targeted editable available settles =>
      rw [settles]
      exact settled_hasDelta _
    | accepted settles | devices settles | groups settles =>
      rw [settles]
      exact settled_hasDelta _
    | loaded | counted | refreshed => exact settled_hasDelta _
    | sent answer => cases answer <;> rfl
    | _ => rfl

theorem History.hasDelta {options : Options} (history : History (new options) turns w) :
    w.hasDelta = loadedDeltas turns := by
  refine history.recorded (P := fun deltas w => w.hasDelta = deltas) rfl ?_
  rintro _ w move w' rfl step
  exact step.hasDelta

theorem preview_within {options : Options} {now : Instant} {request : DeploymentRequest}
    (history : History (new options) turns w) (made : w.preview now = .ok request) :
    request.Within options (loadedDeltas turns) w.selection := by
  have carries := Selection.request_carries made
  constructor
  · intro phased
    have given : request.phases.isSome = true := Option.isSome_iff_ne_none.mpr phased
    rw [carries.phased] at given
    exact history.options ▸ history.permitted.phases given
  · intro n asked
    rw [carries.retries] at asked
    simp only [Wizard.flags, history.options, Option.ite_none_right_eq_some, Bool.and_eq_true,
      decide_eq_true_eq, Option.some.injEq] at asked
    obtain ⟨⟨can, positive⟩, rfl⟩ := asked
    exact ⟨can, rfl, positive⟩
  · intro delta
    rw [carries.delta, Bool.and_eq_true] at delta
    exact history.hasDelta ▸ delta.1
  · intro n limited
    rw [carries.maxDevices, Option.filter_eq_some_iff] at limited
    exact of_decide_eq_true limited.2

/-- Every request that a wizard shows or sends asks only for what its tenant may have, and a saved
filter is targeted only where it may be. -/
theorem requests_within_capabilities {options : Options}
    (history : History (new options) turns w) :
    (∀ f, w.selection.target = .filter f → options.hasFullFiltering = true) ∧
    (∀ now request, w.preview now = .ok request →
      request.Within options (loadedDeltas turns) w.selection) ∧
    ∀ earlier turn later, turns = earlier ++ turn :: later → ∀ request ∈ turn.requests,
      request.Within options (loadedDeltas earlier) turn.before.selection := by
  refine ⟨?_, fun now request made => preview_within history made, ?_⟩
  · have filters := history.permitted.filters
    rwa [history.options] at filters
  · intro earlier turn later parts request sent
    obtain ⟨before, step⟩ := history.split parts
    obtain ⟨now, made⟩ := step.requests request sent
    exact preview_within before made

def allowances : Options where
  canRetry := true
  canSchedule := true
  defaultRetries := 3
  previousPhases := some [{ batchSize := some 50, delay := some (.hours 1) }, {}]

@[irreducible] def equipped : Wizard :=
  World.play { api := { accepted := 7, releases := ["v2"], hasDelta := true } } (new allowances)
    [.open, .selectRelease "v2", .selectTarget .allDevices, .usePreviousPhases, .setDelta true]

/-- All that the tenant may have is sent. -/
theorem requests_within_capabilities_equipped :
    ∃ turns exchanges reply w' request, History (new allowances) turns equipped ∧
      Step equipped (.perform (.submit true default) exchanges reply) w' ∧
      creations exchanges = [request] ∧ request.phases.isSome = true ∧ request.retries = some 3 ∧
      request.autogenerateDelta = true ∧
      request.Within allowances (loadedDeltas turns) equipped.selection := by
  obtain ⟨turns, history⟩ : ∃ turns, History (new allowances) turns equipped := by
    unfold equipped
    exact World.play_history _ _ _
  have unrefused : (equipped.refusal? true default).isNone = true := by decide +kernel
  obtain ⟨exchanges, reply, w', request, step, created, made⟩ :=
    Step.submit_of_unrefused (Option.isNone_iff_eq_none.mp unrefused)
  have within := (requests_within_capabilities (history.next step)).2.2
    turns _ [] rfl request (by simp [Turn.requests, created])
  obtain ⟨_, phased, retries, _, _, delta, _⟩ := Selection.request_carries made
  have parts : equipped.selection.isPhased = true ∧ equipped.selection.retries = 3 ∧
      equipped.flags = ⟨true, true⟩ ∧ equipped.selection.delta = true := by decide +kernel
  obtain ⟨chosen, three, flags, wanted⟩ := parts
  refine ⟨turns, exchanges, _, _, request, history, step, created, phased.trans chosen, ?_, ?_,
    within⟩
  · rw [retries, three, flags]
    rfl
  · rw [delta, wanted, flags]
    rfl

end Wizard
end FleetRollout
