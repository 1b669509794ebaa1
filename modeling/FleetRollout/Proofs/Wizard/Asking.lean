import FleetRollout.Proofs.Wizard.Sending
import FleetRollout.Wizard.Operation

/-! What each operation asks, whatever the answers are: a question that is not for the log comes up
in one kind of operation only. -/
namespace FleetRollout.Wizard
variable {operation : Operation}

def Operation.MayAsk (operation : Operation) : Question → Prop
  | .log _ => True
  | .call (.releases _) | .call (.deviceCount _) | .call .groups | .call .savedFilters
  | .call .deploymentsConfig => operation = .open
  | .advance .artifactSelection => ∃ name, operation = .selectRelease name
  | .advance .groupSelection | .advance .allDevicesSelection =>
    ∃ target, operation = .selectTarget target
  | .call (.device _) => operation = .loadSelectedDevices
  | .call (.groupDevices _ _) => operation = .refreshCount
  | .tourIsComplete | .advance .releaseToDevices | .call (.createDeployment _) =>
    ∃ confirmed clock, operation = .submit confirmed clock

theorem log_asks (level : LogLevel) (message : String) :
    (log level message).Asks operation.MayAsk := ⟨trivial, fun _ => trivial⟩

theorem logAll_asks (entries : List LogEntry) : (logAll entries).Asks operation.MayAsk := by
  induction entries with
  | nil => trivial
  | cons e rest ih => exact (log_asks e.level e.message).bind fun _ => ih

theorem settle_asks (w : Wizard) : (settle w).Asks operation.MayAsk :=
  (logAll_asks _).bind fun _ => trivial

theorem call_asks {c : Call} (may : operation.MayAsk (.call c)) :
    (call c).Asks operation.MayAsk := ⟨may, fun _ => trivial⟩

theorem callOr_asks {c : Call} {substitute : c.Answer} (may : operation.MayAsk (.call c)) :
    (callOr c level complaint substitute).Asks operation.MayAsk := by
  refine (call_asks may).bind fun answer => ?_
  cases answer with
  | ok answer => trivial
  | error e => exact (log_asks _ _).bind fun _ => trivial

variable {w : Wizard}

theorem open_asks (w : Wizard) : w.open.Asks (Operation.MayAsk .open) := by
  unfold Wizard.open
  split
  · trivial
  · refine (log_asks _ _).bind fun _ => ?_
    refine (callOr_asks (by rfl)).bind fun releases => ?_
    refine (callOr_asks (by rfl)).bind fun accepted => ?_
    refine (callOr_asks (by rfl)).bind fun names => ?_
    have filters : w.loadFilters.Asks (Operation.MayAsk .open) := by
      unfold loadFilters
      split
      · exact callOr_asks (by rfl)
      · trivial
    refine filters.bind fun filters => ?_
    refine (callOr_asks (by rfl)).bind fun config => ?_
    exact (settle_asks _).bind fun _ => trivial

theorem selectRelease_asks (w : Wizard) (name : String) :
    (w.selectRelease name).Asks (Operation.MayAsk (.selectRelease name)) := by
  unfold selectRelease
  split
  · trivial
  · exact ⟨⟨name, rfl⟩, fun _ => trivial⟩

theorem advance_asks {step : OnboardingStep} (may : operation.MayAsk (.advance step)) :
    (advance step).Asks operation.MayAsk := ⟨may, fun _ => trivial⟩

theorem selectTarget_asks (w : Wizard) (target : Target) :
    (w.selectTarget target).Asks (Operation.MayAsk (.selectTarget target)) := by
  unfold selectTarget
  split
  · trivial
  · refine (advance_asks (by exact ⟨target, rfl⟩)).bind fun _ => ?_
    split
    · refine (advance_asks (by exact ⟨target, rfl⟩)).bind fun _ => ?_
      exact (settle_asks _).bind fun _ => trivial
    · exact (settle_asks _).bind fun _ => trivial

theorem updateFleet_asks (w : Wizard) (fleet : Fleet) :
    (w.updateFleet fleet).Asks operation.MayAsk :=
  (settle_asks _).bind fun _ => trivial

theorem loadDevices_asks (ids : List DeviceId) (known : DevicesById) :
    (loadDevices ids known).Asks (Operation.MayAsk .loadSelectedDevices) := by
  induction ids generalizing known with
  | nil => trivial
  | cons id rest ih =>
    refine (call_asks (by rfl)).bind fun answer => ?_
    cases answer with
    | ok record => exact ih _
    | error e => exact (log_asks _ _).bind fun _ => ih known

theorem loadSelectedDevices_asks (w : Wizard) :
    w.loadSelectedDevices.Asks (Operation.MayAsk .loadSelectedDevices) := by
  unfold loadSelectedDevices
  split
  · exact (loadDevices_asks _ _).bind fun known => settle_asks _
  · trivial

theorem completeCount_asks (w : Wizard) (ticket : Ticket) (result : Except DeployError UInt64) :
    (w.completeCount ticket result).Asks operation.MayAsk := by
  unfold completeCount
  split
  · cases result with
    | ok total => exact (settle_asks _).bind fun _ => trivial
    | error e => exact (log_asks _ _).bind fun _ => trivial
  · exact (log_asks _ _).bind fun _ => trivial

theorem refreshCount_asks (w : Wizard) : w.refreshCount.Asks (Operation.MayAsk .refreshCount) := by
  unfold refreshCount
  split
  · trivial
  · exact (call_asks (by rfl)).bind fun answer => completeCount_asks _ _ _

theorem create_asks {confirmed : Bool} {clock : Readings} (w : Wizard)
    (request : DeploymentRequest) :
    (w.create request).Asks (Operation.MayAsk (.submit confirmed clock)) := by
  unfold create
  refine (call_asks (by exact ⟨confirmed, clock, rfl⟩)).bind fun answer => ?_
  cases answer with
  | ok created => exact (log_asks _ _).bind fun _ => trivial
  | error e => exact (log_asks _ _).bind fun _ => trivial

/-- The tour is asked about, and told of the step unless it is over. -/
theorem tour_asks {confirmed : Bool} {clock : Readings} {rest : Program α}
    (asks : rest.Asks (Operation.MayAsk (.submit confirmed clock))) :
    Dialogue.Asks (Operation.MayAsk (.submit confirmed clock)) (do
      if !(← tourIsComplete) then advance .releaseToDevices
      rest) := by
  refine ⟨⟨confirmed, clock, rfl⟩, fun complete => ?_⟩
  cases complete with
  | true => exact asks
  | false => exact ⟨⟨confirmed, clock, rfl⟩, fun _ => asks⟩

theorem send_asks {confirmed : Bool} {clock : Readings} (w : Wizard)
    (request : DeploymentRequest) :
    (w.send request).Asks (Operation.MayAsk (.submit confirmed clock)) := by
  unfold send
  refine tour_asks ?_
  split
  · trivial
  · exact create_asks _ request

theorem submit_asks (w : Wizard) (confirmed : Bool) (clock : Readings) :
    (w.submit confirmed clock).Asks (Operation.MayAsk (.submit confirmed clock)) := by
  unfold submit
  split
  · exact (log_asks _ _).bind fun _ => trivial
  · refine Dialogue.Asks.bind ?_ fun _ => trivial
    unfold submitHeld
    split
    · trivial
    · trivial
    · exact send_asks _ _

/-- A question that is not for the log comes from the operation it belongs to. -/
theorem perform_asks (w : Wizard) (operation : Operation) :
    (w.perform operation).Asks operation.MayAsk := by
  cases operation with
  | «open» => exact (open_asks w).bind fun _ => trivial
  | selectRelease name => exact (selectRelease_asks w name).bind fun _ => trivial
  | selectTarget target => exact (selectTarget_asks w target).bind fun _ => trivial
  | setAccepted | setDevices | setGroups => exact (updateFleet_asks w _).bind fun _ => trivial
  | loadSelectedDevices => exact (loadSelectedDevices_asks w).bind fun _ => trivial
  | completeCount ticket result => exact (completeCount_asks w ticket result).bind fun _ => trivial
  | refreshCount => exact (refreshCount_asks w).bind fun _ => trivial
  | submit confirmed clock => exact (submit_asks w confirmed clock).bind fun _ => trivial
  | close | setPhases | usePreviousPhases | setRetries | setSaveRetriesDefault | setForceInstall
  | setDelta | setMaxDevices | setUpdateControlMap => trivial

def Turn.requests (turn : Turn) : List DeploymentRequest :=
  match turn.move with
  | .perform _ exchanges _ => creations exchanges
  | .guard _ => []

theorem creation?_eq_some {exchange : Dialogue.Exchange interface} {request : DeploymentRequest}
    (creates : creation? exchange = some request) :
    exchange.question = .call (.createDeployment request) := by
  unfold creation? at creates
  split at creates
  · rename_i r creation
    rw [creation, Option.some.inj creates]
  · contradiction

/-- A submission that nothing stands against sends the request of the selection. -/
theorem perform_submit_creations (w : Wizard) (confirmed : Bool) (clock : Readings) :
    (w.perform (.submit confirmed clock)).Ensures fun exchanges _ =>
      match w.refusal? confirmed clock with
      | some _ => creations exchanges = []
      | none => ∃ request, w.selection.request w.flags clock.request = .ok request ∧
          creations exchanges = [request] := by
  refine Dialogue.ensures_bind.mpr ((submit_ensures_refusal? w confirmed clock).imp ?_)
  intro exchanges r ended
  simp only [Dialogue.pure_eq_done, Dialogue.ensures_done, List.append_nil]
  cases refusal : w.refusal? confirmed clock with
  | some outcome =>
    simp only [refusal] at ended
    simp [creations_eq_filterMap, ended.1]
  | none =>
    simp only [refusal] at ended
    obtain ⟨request, answer, made, sent, _⟩ := ended
    exact ⟨request, made, by simp [creations_eq_filterMap, sent]⟩

/-- Only submissions send requests, and only the one of the selection. -/
theorem perform_creations (w : Wizard) (operation : Operation) :
    (w.perform operation).Ensures fun exchanges _ => ∀ request ∈ creations exchanges,
      ∃ now, w.preview now = .ok request := by
  refine Dialogue.ensures_iff.mpr fun exchanges r runs request created => ?_
  obtain ⟨exchange, found, creates⟩ := List.mem_filterMap.mp created
  have may := (perform_asks w operation).exchanges runs exchange found
  rw [creation?_eq_some creates] at may
  obtain ⟨confirmed, clock, rfl⟩ := may
  have sent := Dialogue.ensures_iff.mp (perform_submit_creations w confirmed clock) _ _ runs
  cases refusal : w.refusal? confirmed clock with
  | some outcome =>
    simp only [refusal] at sent
    simp [sent] at created
  | none =>
    simp only [refusal] at sent
    obtain ⟨made, previewed, sent⟩ := sent
    obtain rfl : request = made := by simpa [sent] using created
    exact ⟨_, previewed⟩

theorem Step.requests {move : Move} (step : Step w move w') :
    ∀ request ∈ (Turn.mk w move w').requests, ∃ now, w.preview now = .ok request := by
  cases step with
  | guard use => simp [Turn.requests]
  | perform runs => exact Dialogue.ensures_iff.mp (perform_creations w _) _ _ runs

/-- A submission that nothing stands against can be made, and sends the request that is shown. -/
theorem Step.submit_of_unrefused {confirmed : Bool} {clock : Readings}
    (unrefused : w.refusal? confirmed clock = none) :
    ∃ exchanges reply w' request, Step w (.perform (.submit confirmed clock) exchanges reply) w' ∧
      creations exchanges = [request] ∧ w.preview clock.request = .ok request := by
  obtain ⟨exchanges, runs⟩ := World.runs_run {} (w.perform (.submit confirmed clock))
  have sent := Dialogue.ensures_iff.mp (perform_submit_creations w confirmed clock) _ _ runs
  simp only [unrefused] at sent
  obtain ⟨request, made, created⟩ := sent
  exact ⟨exchanges, _, _, request, .perform runs, created, made⟩

end FleetRollout.Wizard
