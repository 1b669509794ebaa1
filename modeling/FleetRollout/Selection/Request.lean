import FleetRollout.Deployment.Request
import FleetRollout.Rollout.Schedule
import FleetRollout.Selection.Basic
import FleetRollout.Text.Percent

/-! The creation request of a selection. The target decides which one of the four ways to name
devices the request uses, and what the deployment is called. -/
namespace FleetRollout

structure RequestFlags where
  /-- Whether the deployments service accepts retries. -/
  canRetry : Bool := false
  /-- Whether delta artifacts are generated. -/
  hasDelta : Bool := false
deriving DecidableEq, Repr

namespace Selection

/-- The phases of a request: starts are filled in, and the last phase has no percentage. -/
def requestPhases : List Phase → List (Option Instant) → List RequestPhase
  | [_], start :: _ => [⟨none, start⟩]
  | phase :: rest, start :: starts => ⟨phase.batchSize, start⟩ :: requestPhases rest starts
  | _, _ => []

/-- A request with all but target and phases; it has the name of a deployment to all devices. -/
def draft (s : Selection) (release : Release) (flags : RequestFlags) : DeploymentRequest :=
  { name := Target.allDevicesLabel
    artifactName := release.name
    retries := if flags.canRetry && 0 < s.retries then some s.retries else none
    maxDevices := s.maxDevices.filter (0 < ·)
    forceInstallation := s.forceInstall
    autogenerateDelta := flags.hasDelta && s.delta
    updateControlMap := s.updateControlMap }

/-- Names the devices of the target in a request. A group that is backed by a saved filter is sent
as the filter; ids that were resolved stand for the picked ones. -/
def addressed (s : Selection) (r : DeploymentRequest) : Except DeployError DeploymentRequest :=
  match s.target with
  | .devices (first :: rest) =>
    let ids := if s.resolvedDeviceIds.isEmpty then first :: rest else s.resolvedDeviceIds
    .ok { r with name := first, devices := some ids }
  | .group name =>
    let r := { r with name := Text.decodeComponent name }
    match s.resolvedFilterId with
    | some id => .ok { r with filterId := some id }
    | none => .ok { r with group := some name }
  | .allDevices => .ok { r with allDevices := some true }
  | .filter f => .ok { r with name := Text.decodeComponent f.name, filterId := some f.id }
  | .devices [] | .unselected => .error (.validation .noTarget)

def scheduled (s : Selection) (r : DeploymentRequest) (now : Instant) :
    Except DeployError DeploymentRequest :=
  match s.rollout? with
  | none => .ok r
  | some phases => do
    let starts ← Rollout.startTimes phases now
    return { r with phases := some (requestPhases phases starts) }

def request (s : Selection) (flags : RequestFlags) (now : Instant) :
    Except DeployError DeploymentRequest :=
  match s.release with
  | none => .error (.validation .noRelease)
  | some release => do s.scheduled (← s.addressed (s.draft release flags)) now

end Selection
end FleetRollout
