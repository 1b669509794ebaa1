import FleetRollout.Proofs.Selection.Derivation
import FleetRollout.Selection.Request

/-! Whom a request is for. With the derived fields in line, it names the target of the selection and
nothing else. -/
namespace FleetRollout

/-- A request names this target, by the one field that is meant for it, and takes its name from
it. A group that is backed by a saved filter is named by the filter. -/
def DeploymentRequest.IsFor (r : DeploymentRequest) (fleet : Fleet) : Target → Prop
  | .unselected => False
  | .devices ids =>
    ids.head? = some r.name ∧ r.devices = some ids ∧ r.group = none ∧ r.allDevices = none ∧
      r.filterId = none
  | .group name =>
    r.name = Text.decodeComponent name ∧ r.devices = none ∧ r.allDevices = none ∧
      match (fleet.groups.get? name).bind GroupInfo.filterId with
      | some id => r.filterId = some id ∧ r.group = none
      | none => r.group = some name ∧ r.filterId = none
  | .allDevices =>
    r.name = Target.allDevicesLabel ∧ r.allDevices = some true ∧ r.devices = none ∧
      r.group = none ∧ r.filterId = none
  | .filter f =>
    r.name = Text.decodeComponent f.name ∧ r.filterId = some f.id ∧ r.devices = none ∧
      r.group = none ∧ r.allDevices = none

namespace Selection
variable {s : Selection} {flags : RequestFlags} {now : Instant}

/-- A request is made in three steps: what the selection asks for, for whom, and when. -/
theorem request_eq_ok {request : DeploymentRequest} :
    s.request flags now = .ok request ↔
      ∃ release addressee, s.release = some release ∧
        s.addressed (s.draft release flags) = .ok addressee ∧
        s.scheduled addressee now = .ok request := by
  unfold Selection.request
  cases s.release with
  | none => simp
  | some release =>
    cases addressed : s.addressed (s.draft release flags) with
    | error e => simp [addressed, bind, Except.bind]
    | ok addressee => simp [addressed, bind, Except.bind]

/-- Giving phases to a request changes nothing else. -/
theorem scheduled_eq_ok {r request : DeploymentRequest} (made : s.scheduled r now = .ok request) :
    ∃ phases, request = { r with phases := phases } := by
  unfold scheduled at made
  cases phased : s.rollout? with
  | none =>
    rw [phased] at made
    obtain rfl := Except.ok.inj made
    exact ⟨r.phases, rfl⟩
  | some phases =>
    cases told : Rollout.startTimes phases now with
    | error e => simp [phased, told, bind, Except.bind] at made
    | ok starts =>
      simp only [phased, told, bind, Except.bind, pure, Except.pure, Except.ok.injEq] at made
      exact ⟨_, made.symm⟩

theorem addressed_isFor {fleet : Fleet} {release : Release} {r : DeploymentRequest}
    (ids : s.resolvedDeviceIds = s.target.ids)
    (filterId : s.resolvedFilterId = fleet.filterId? s.target)
    (addressed : s.addressed (s.draft release flags) = .ok r) : r.IsFor fleet s.target := by
  unfold Selection.addressed at addressed
  cases target : s.target with
  | unselected => simp [target] at addressed
  | devices picked =>
    cases picked with
    | nil => simp [target] at addressed
    | cons first rest =>
      simp only [target, Target.ids] at ids
      simp only [target, ids, List.isEmpty_cons, Bool.false_eq_true, if_false,
        Except.ok.injEq] at addressed
      subst r
      exact ⟨rfl, rfl, rfl, rfl, rfl⟩
  | group name =>
    rw [target, Fleet.filterId?] at filterId
    cases backing : s.resolvedFilterId with
    | some id =>
      simp only [target, backing, Except.ok.injEq] at addressed
      subst r
      refine ⟨rfl, rfl, rfl, ?_⟩
      rw [← filterId, backing]
      exact ⟨rfl, rfl⟩
    | none =>
      simp only [target, backing, Except.ok.injEq] at addressed
      subst r
      refine ⟨rfl, rfl, rfl, ?_⟩
      rw [← filterId, backing]
      exact ⟨rfl, rfl⟩
  | allDevices =>
    simp only [target, Except.ok.injEq] at addressed
    subst r
    exact ⟨rfl, rfl, rfl, rfl, rfl⟩
  | filter f =>
    simp only [target, Except.ok.injEq] at addressed
    subst r
    exact ⟨rfl, rfl, rfl, rfl, rfl⟩

theorem request_isFor {fleet : Fleet} {request : DeploymentRequest}
    (ids : s.resolvedDeviceIds = s.target.ids)
    (filterId : s.resolvedFilterId = fleet.filterId? s.target)
    (made : s.request flags now = .ok request) : request.IsFor fleet s.target := by
  obtain ⟨release, addressee, _, addressed, scheduled⟩ := request_eq_ok.mp made
  obtain ⟨phases, rfl⟩ := scheduled_eq_ok scheduled
  have isFor := addressed_isFor ids filterId addressed
  -- Whom a request is for does not hang on its phases.
  cases target : s.target <;> rw [target] at isFor <;> exact isFor

end Selection
end FleetRollout
