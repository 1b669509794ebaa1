/-! The steps of the guided tour that a wizard reports. -/
namespace FleetRollout.Wizard

inductive OnboardingStep where
  | artifactSelection
  | groupSelection
  | allDevicesSelection
  | releaseToDevices
deriving DecidableEq, Repr

namespace OnboardingStep

def name : OnboardingStep → String
  | artifactSelection => "scheduling-artifact-selection"
  | groupSelection => "scheduling-group-selection"
  | allDevicesSelection => "scheduling-all-devices-selection"
  | releaseToDevices => "scheduling-release-to-devices"

def label : OnboardingStep → String
  | artifactSelection => "SchedulingArtifactSelection"
  | groupSelection => "SchedulingGroupSelection"
  | allDevicesSelection => "SchedulingAllDevicesSelection"
  | releaseToDevices => "SchedulingReleaseToDevices"

def ignoredMessage (step : OnboardingStep) : String := "Onboarding step " ++ step.label ++ " ignored"

end OnboardingStep
end FleetRollout.Wizard
