import FleetRollout.Proofs.Rollout.Validity
import FleetRollout.Selection.Request
import FleetRollout.Selection.Resolve

/-! When a selection counts as complete, and when a request can be made of it. The two differ: a
device count passes for a target, but a request needs a target that is selected. -/
namespace FleetRollout.Selection
variable {s : Selection} {now : Instant}

/-- A device count passes for a target; without one, a target counts unless it is made of devices
that are picked one by one. -/
theorem isSubmittable_iff :
    s.isSubmittable now = true ↔
      s.release.isSome = true ∧
        (0 < s.resolvedDeviceCount ∨ ∃ mode, s.target.mode = some mode ∧ mode ≠ .explicitDevices) ∧
        Rollout.isValid (s.phases.getD []) s.resolvedDeviceCount now = true := by
  have unphased : Rollout.isValid? .wraps [] s.resolvedDeviceCount now = some true := rfl
  unfold isSubmittable isSubmittable?
  by_cases released : s.release.isSome = true <;>
    by_cases counted : 0 < s.resolvedDeviceCount <;>
    cases phases : s.phases <;> cases target : s.target <;>
    simp [released, counted, unphased, Rollout.isValid, Target.mode]

theorem rollout?_eq_some {phases : List Phase} :
    s.rollout? = some phases ↔ s.phases = some phases ∧ phases ≠ [] := by
  unfold rollout?
  rw [Option.filter_eq_some_iff]
  simp

theorem addressed_of_mode {r : DeploymentRequest} (targeted : s.target.mode.isSome = true) :
    ∃ addressee, s.addressed r = .ok addressee := by
  unfold addressed
  cases target : s.target with
  | unselected => simp [target, Target.mode] at targeted
  | devices ids =>
    cases ids with
    | nil => simp [target, Target.mode] at targeted
    | cons first rest => exact ⟨_, rfl⟩
  | group name => cases s.resolvedFilterId <;> exact ⟨_, rfl⟩
  | allDevices => exact ⟨_, rfl⟩
  | filter f => exact ⟨_, rfl⟩

theorem addressed_of_mode_none {r : DeploymentRequest} (untargeted : s.target.mode = none) :
    s.addressed r = .error (.validation .noTarget) := by
  unfold addressed
  cases target : s.target with
  | unselected => rfl
  | devices ids =>
    cases ids with
    | nil => rfl
    | cons first rest => simp [target, Target.mode] at untargeted
  | group name => simp [target, Target.mode] at untargeted
  | allDevices => simp [target, Target.mode] at untargeted
  | filter f => simp [target, Target.mode] at untargeted

theorem scheduled_of_startTimes {r : DeploymentRequest} {phases : List Phase}
    {starts : List (Option Instant)} (phased : s.rollout? = some phases)
    (told : Rollout.startTimes phases now = .ok starts) :
    s.scheduled r now = .ok { r with phases := some (requestPhases phases starts) } := by
  simp [scheduled, phased, told, bind, Except.bind, pure, Except.pure]

/-- With a target selected, a complete selection makes a request. -/
theorem request_of_isSubmittable (flags : RequestFlags) (complete : s.isSubmittable now = true)
    (targeted : s.target.mode.isSome = true) : ∃ request, s.request flags now = .ok request := by
  obtain ⟨released, _, valid⟩ := isSubmittable_iff.mp complete
  obtain ⟨release, picked⟩ := Option.isSome_iff_exists.mp released
  obtain ⟨addressee, addressed⟩ := addressed_of_mode (r := s.draft release flags) targeted
  have scheduled : ∃ r, s.scheduled addressee now = .ok r := by
    cases phased : s.rollout? with
    | none => exact ⟨addressee, by rw [Selection.scheduled, phased]⟩
    | some phases =>
      rw [(rollout?_eq_some.mp phased).1] at valid
      obtain ⟨starts, told⟩ := Rollout.startTimes_of_isValid valid
      exact ⟨_, scheduled_of_startTimes phased told⟩
  simpa [request, picked, addressed, bind, Except.bind] using scheduled

/-- With no target selected, a complete selection makes none. -/
theorem request_of_mode_none (flags : RequestFlags) (complete : s.isSubmittable now = true)
    (untargeted : s.target.mode = none) :
    s.request flags now = .error (.validation .noTarget) := by
  obtain ⟨released, _⟩ := isSubmittable_iff.mp complete
  obtain ⟨release, picked⟩ := Option.isSome_iff_exists.mp released
  simp [request, picked, addressed_of_mode_none untargeted, bind, Except.bind]

end FleetRollout.Selection
