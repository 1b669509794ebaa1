import FleetRollout.Proofs.Selection.Addressing
import FleetRollout.Proofs.Wizard.Asking

/-! Whom the requests of a wizard are for, over whole histories: for the target that was picked last
since the wizard was opened, as the fleet is known by then. -/
namespace FleetRollout.Wizard
variable {w w' : Wizard} {turns : List Turn} {now : Instant}

/-- The target that is picked after a turn. A refused pick changes nothing; opening and closing drop
the target from before. -/
def Turn.picked (before : Option Target) (turn : Turn) : Option Target :=
  match turn.move with
  | .perform (.selectTarget target) _ (.ticket _) => some target
  | .perform .open _ .done | .perform .close _ .done => none
  | _ => before

def pickedTarget (turns : List Turn) : Option Target := turns.foldl Turn.picked none

theorem Step.target {move : Move} {picked : Option Target} (step : Step w move w')
    (before : w.selection.target = picked.getD .unselected) :
    w'.selection.target = ((Turn.mk w move w').picked picked).getD .unselected := by
  cases step with
  | guard use => exact before
  | @perform operation exchanges reply _ runs =>
    have effect : Effect w operation reply w' := Step.effect (.perform runs)
    cases effect with
    | refused => cases operation <;> exact before
    | opened => simp [Turn.picked, restarted]
    | closed => rfl
    | targeted editable available settles => simp [Turn.picked, settles]
    | chosen editable plain =>
      have same := (Operation.choice_sameTarget plain w.selection).target
      cases operation with
      | setRetries | setSaveRetriesDefault | setForceInstall | setDelta | setMaxDevices
      | setUpdateControlMap => exact same.trans before
      | _ => contradiction
    | accepted settles | devices settles | groups settles =>
      have kept : w'.selection.target = w.selection.target := by simp [settles]
      exact kept.trans before
    | loaded | counted | refreshed => exact (settled_target _).trans before
    | sent answer => cases answer <;> exact before
    | released | phased | rephased | notLoaded | notCounted | notRefreshed | unsent => exact before

theorem History.target {options : Options} (history : History (new options) turns w) :
    w.selection.target = (pickedTarget turns).getD .unselected := by
  refine history.recorded
    (P := fun (picked : Option Target) w => w.selection.target = picked.getD .unselected) rfl ?_
  intro picked w move w' before step
  exact step.target before

theorem preview_isFor {options : Options} {request : DeploymentRequest}
    (history : History (new options) turns w) (made : w.preview now = .ok request) :
    ∃ target, pickedTarget turns = some target ∧ request.IsFor w.fleet target := by
  have inLine : InLine w := Reachable.inLine ⟨options, turns, history⟩
  have isFor := Selection.request_isFor inLine.ids inLine.filterId made
  rw [history.target] at isFor
  cases picked : pickedTarget turns with
  | none =>
    rw [picked] at isFor
    exact isFor.elim
  | some target =>
    rw [picked] at isFor
    exact ⟨target, rfl, isFor⟩

/-- Every request that a wizard shows or sends is for the target that was picked last since it was
opened, and names a group's filter exactly if the group is known to have one at that moment. -/
theorem requests_are_for_last_pick {options : Options} (history : History (new options) turns w) :
    (∀ now request, w.preview now = .ok request →
      ∃ target, pickedTarget turns = some target ∧ request.IsFor w.fleet target) ∧
    ∀ earlier turn later, turns = earlier ++ turn :: later → ∀ request ∈ turn.requests,
      ∃ target, pickedTarget earlier = some target ∧ request.IsFor turn.before.fleet target := by
  refine ⟨fun now request made => preview_isFor history made, ?_⟩
  intro earlier turn later parts request sent
  obtain ⟨before, step⟩ := history.split parts
  obtain ⟨now, made⟩ := step.requests request sent
  exact preview_isFor before made

/-- A wizard in which devices were picked one by one, and then a group that a filter stands
behind. -/
@[irreducible] def regrouped : Wizard :=
  World.play
    { api := { releases := ["v2"], groups := ["lab"], savedFilters := [⟨"f-9", "lab"⟩] } }
    (new { hasFullFiltering := true })
    [.open, .selectRelease "v2", .selectTarget (.devices ["a", "b"]), .selectTarget (.group "lab")]

/-- The filter is sent, and neither the group nor the devices that were picked before. -/
theorem requests_are_for_last_pick_regrouped :
    ∃ turns exchanges reply w' request,
      History (new { hasFullFiltering := true }) turns regrouped ∧
      Step regrouped (.perform (.submit true default) exchanges reply) w' ∧
      creations exchanges = [request] ∧ request.name = "lab" ∧ request.filterId = some "f-9" ∧
      request.group = none ∧ request.devices = none := by
  obtain ⟨turns, history⟩ :
      ∃ turns, History (new { hasFullFiltering := true }) turns regrouped := by
    unfold regrouped
    exact World.play_history _ _ _
  obtain ⟨exchanges, runs⟩ := World.runs_run {} (regrouped.perform (.submit true default))
  have unrefused : (regrouped.refusal? true default).isNone = true := by decide +kernel
  have sent := Dialogue.ensures_iff.mp (perform_submit_creations regrouped true default) _ _ runs
  simp only [Option.isNone_iff_eq_none.mp unrefused] at sent
  obtain ⟨request, _, created⟩ := sent
  have step := Step.perform runs
  obtain ⟨target, picked, isFor⟩ := (requests_are_for_last_pick (history.next step)).2
    turns _ [] rfl request (by simp [Turn.requests, created])
  have last : regrouped.selection.target = .group "lab" := by decide +kernel
  rw [history.target, picked, Option.getD_some] at last
  have backed : (regrouped.fleet.groups.get? "lab").bind GroupInfo.filterId = some "f-9" := by
    decide +kernel
  simp only [last, DeploymentRequest.IsFor, backed] at isFor
  obtain ⟨name, devices, _, filterId, group⟩ := isFor
  have plain : Text.decodeComponent "lab" = "lab" := by decide +kernel
  exact ⟨turns, exchanges, _, _, request, history, step, created, name.trans plain, filterId, group,
    devices⟩

end FleetRollout.Wizard
