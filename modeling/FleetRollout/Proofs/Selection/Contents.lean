import FleetRollout.Proofs.Selection.Addressing

/-! What a request asks for beside naming devices: what was chosen, as far as the flags let it. -/
namespace FleetRollout

/-- A request asks for what was chosen in a selection, as far as the flags let it. -/
structure DeploymentRequest.Carries (r : DeploymentRequest) (s : Selection) (flags : RequestFlags) :
    Prop where
  release : s.release = some ⟨r.artifactName⟩
  phased : r.phases.isSome = s.isPhased
  retries : r.retries = if flags.canRetry && 0 < s.retries then some s.retries else none
  maxDevices : r.maxDevices = s.maxDevices.filter (0 < ·)
  forceInstallation : r.forceInstallation = s.forceInstall
  delta : r.autogenerateDelta = (flags.hasDelta && s.delta)
  updateControlMap : r.updateControlMap = s.updateControlMap

namespace Selection
variable {s : Selection} {flags : RequestFlags} {now : Instant} {r request : DeploymentRequest}

/-- Naming the devices touches nothing else of a request. -/
theorem addressed_eq_ok {addressee : DeploymentRequest} (addressed : s.addressed r = .ok addressee) :
    ∃ name devices group allDevices filterId, addressee = { r with
      name := name, devices := devices, group := group, allDevices := allDevices
      filterId := filterId } := by
  unfold Selection.addressed at addressed
  split at addressed
  · obtain rfl := Except.ok.inj addressed
    exact ⟨_, _, _, _, _, rfl⟩
  · split at addressed <;> obtain rfl := Except.ok.inj addressed <;> exact ⟨_, _, _, _, _, rfl⟩
  · obtain rfl := Except.ok.inj addressed
    exact ⟨_, _, _, _, _, rfl⟩
  · obtain rfl := Except.ok.inj addressed
    exact ⟨_, _, _, _, _, rfl⟩
  · contradiction
  · contradiction

theorem scheduled_phases (unphased : r.phases = none) (made : s.scheduled r now = .ok request) :
    request.phases.isSome = s.isPhased := by
  unfold scheduled at made
  unfold isPhased
  cases phased : s.rollout? with
  | none =>
    rw [phased] at made
    obtain rfl := Except.ok.inj made
    rw [unphased]
    rfl
  | some phases =>
    cases told : Rollout.startTimes phases now with
    | error e => simp [phased, told, bind, Except.bind] at made
    | ok starts =>
      simp only [phased, told, bind, Except.bind, pure, Except.pure, Except.ok.injEq] at made
      rw [← made]
      rfl

theorem request_carries (made : s.request flags now = .ok request) : request.Carries s flags := by
  obtain ⟨release, addressee, released, addressed, scheduled⟩ := request_eq_ok.mp made
  obtain ⟨name, devices, group, allDevices, filterId, rfl⟩ := addressed_eq_ok addressed
  have phased := scheduled_phases rfl scheduled
  obtain ⟨phases, rfl⟩ := scheduled_eq_ok scheduled
  exact ⟨released, phased, rfl, rfl, rfl, rfl, rfl⟩

end Selection
end FleetRollout
