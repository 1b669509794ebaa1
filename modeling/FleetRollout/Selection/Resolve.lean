import FleetRollout.Fleet.GroupCounts
import FleetRollout.Log
import FleetRollout.Rollout.Schedule
import FleetRollout.Selection.Basic

/-! The derived fields of a selection: which devices the target means and how many they are, as far
as is known of the fleet. A group whose count is not known has to be asked for. -/
namespace FleetRollout

structure Fleet where
  /-- The number of accepted devices. -/
  accepted : UInt64 := 0
  devices : DevicesById := .empty
  groups : Dict GroupInfo := .empty
  /-- The device counts of groups that were asked for. -/
  counts : GroupCounts := default

instance : Inhabited Fleet := ⟨{}⟩

inductive Resolution where
  | resolved
  /-- The count of that group has to be asked for. -/
  | needsCount (group : String)
deriving DecidableEq, Repr

namespace Selection

/-- The selection without ids, records and filter id; the device count stays. -/
def underived (s : Selection) : Selection :=
  { s with resolvedDeviceIds := [], resolvedDevices := [], resolvedFilterId := none }

/-- Derives count, ids, records and filter id from the target. Where the count is not known, and
where the target has none, the one from before stays. -/
def resolve (s : Selection) (fleet : Fleet) : Selection × Resolution :=
  match s.target with
  | .devices (first :: rest) =>
    ({ s with
        resolvedDevices := (first :: rest).map (DeviceRecord.join · fleet.devices)
        resolvedDeviceIds := first :: rest
        resolvedDeviceCount := .ofNat (first :: rest).length
        resolvedFilterId := none },
      .resolved)
  | .allDevices => ({ s.underived with resolvedDeviceCount := fleet.accepted }, .resolved)
  | .group name =>
    match fleet.groups.get? name with
    | none => (s.underived, .resolved)
    | some info =>
      let s := { s.underived with resolvedFilterId := info.filterId }
      match fleet.counts.get? name with
      | some total => ({ s with resolvedDeviceCount := total }, .resolved)
      | none => (s, .needsCount name)
  | .unselected | .devices [] | .filter _ => (s.underived, .resolved)

def modeLabel (s : Selection) : String :=
  match s.target.mode with
  | some mode => "Some(" ++ mode.label ++ ")"
  | none => "None"

def resolutionLog (s : Selection) : Resolution → List LogEntry
  | .resolved => [⟨.debug, "Resolving target, mode " ++ s.modeLabel⟩]
  | .needsCount group =>
    [⟨.debug, "Resolving target, mode " ++ s.modeLabel⟩,
      ⟨.debug, "Device count of group " ++ group ++ " not loaded yet"⟩]

/-- Whether the selection is complete: a release, a target or a device count, and phases that suit
the count. There is no answer where the program stops at the phases. -/
def isSubmittable? (overflow : Rollout.Overflow) (s : Selection) (now : Instant) : Option Bool :=
  let targeted := match s.target with
    | .filter _ | .group _ | .allDevices => true
    | .unselected | .devices _ => false
  if s.release.isSome && (0 < s.resolvedDeviceCount || targeted) then
    match s.phases with
    | some phases => Rollout.isValid? overflow phases s.resolvedDeviceCount now
    | none => some true
  else some false

def isSubmittable (s : Selection) (now : Instant) : Bool :=
  s.isSubmittable? .wraps now = some true

end Selection
end FleetRollout
