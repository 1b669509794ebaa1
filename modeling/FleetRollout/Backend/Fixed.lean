import FleetRollout.Backend

/-! A management API with fixed answers. -/
namespace FleetRollout

/-- What a management API knows that never changes. -/
structure FixedApi where
  /-- The number of accepted devices. -/
  accepted : UInt64 := 0
  releases : List String := []
  groups : List String := []
  savedFilters : List SavedFilter := []
  /-- The devices, each under the id that it is asked for by. -/
  devices : Dict DeviceRecord := .empty
  /-- The number of devices of each group. -/
  groupTotals : Dict UInt64 := .empty
  hasDelta : Bool := false
  /-- Whether it tells the ids of created deployments. -/
  tellsIds : Bool := true
  /-- The status and the body that a call is rejected with, if it is rejected. -/
  rejection : Call → Option (UInt16 × String) := fun _ => none

instance : Inhabited FixedApi := ⟨{}⟩

namespace FixedApi

def find (entries : Dict α) (name : String) : Except DeployError α :=
  match entries.get? name with
  | some entry => .ok entry
  | none => .error (.notFound (.other name))

/-- The answer to a call that is not rejected, when some deployments were created before. They are
numbered from one. -/
def answerAccepted (api : FixedApi) (created : Nat) : (c : Call) → Except DeployError c.Answer
  | .deviceCount none => .ok api.accepted
  | .deviceCount (some group) => find api.groupTotals group
  | .groupDevices group _ => do return (⟨← find api.groupTotals group, []⟩ : GroupPage)
  | .releases _ => .ok api.releases
  | .groups => .ok api.groups
  | .savedFilters => .ok api.savedFilters
  | .device id => find api.devices id
  | .deploymentsConfig => .ok (⟨⟨api.hasDelta⟩⟩ : DeploymentsConfig)
  | .createDeployment _ =>
    .ok (⟨if api.tellsIds then some ("d-" ++ toString (created + 1)) else none⟩ : CreatedDeployment)

def answer (api : FixedApi) (created : Nat) (c : Call) : Except DeployError c.Answer :=
  match api.rejection c with
  | some (status, body) => .error (.rejected status body)
  | none => api.answerAccepted created c

def createdAfter (api : FixedApi) (created : Nat) (c : Call) : Nat :=
  match c, api.rejection c with
  | .createDeployment _, none => created + 1
  | _, _ => created

end FixedApi
end FleetRollout
