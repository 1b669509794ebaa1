import FleetRollout.Selection.Resolve

/-! What the derived fields of a selection are, read off the target and the fleet alone. Resolving a
selection writes exactly these, whatever they were before, and keeps the device count where the
target has none. -/
namespace FleetRollout

def Target.ids : Target → List DeviceId
  | .devices ids => ids
  | _ => []

namespace Fleet

/-- The number of devices of a target, as far as it is known. -/
def count? (fleet : Fleet) : Target → Option UInt64
  | .devices (first :: rest) => some (.ofNat (first :: rest).length)
  | .allDevices => some fleet.accepted
  | .group name => if fleet.groups.contains name then fleet.counts.get? name else none
  | .unselected | .devices [] | .filter _ => none

/-- The group whose count has to be asked for before the count of a target is known. -/
def missing? (fleet : Fleet) : Target → Option String
  | .group name =>
    if fleet.groups.contains name && (fleet.counts.get? name).isNone then some name else none
  | _ => none

/-- Whether a target has a count, known or still to be asked for. -/
def measures (fleet : Fleet) : Target → Bool
  | .devices ids => !ids.isEmpty
  | .allDevices => true
  | .group name => fleet.groups.contains name
  | .unselected | .filter _ => false

def filterId? (fleet : Fleet) : Target → Option String
  | .group name => (fleet.groups.get? name).bind GroupInfo.filterId
  | _ => none

variable {fleet : Fleet} {target : Target}

theorem missing?_eq_some {name : String} :
    fleet.missing? target = some name ↔
      target = .group name ∧ fleet.groups.contains name ∧ fleet.counts.get? name = none := by
  cases target with
  | group other =>
    constructor
    · intro missing
      simp only [missing?, Option.ite_none_right_eq_some, Bool.and_eq_true,
        Option.isNone_iff_eq_none, Option.some.injEq] at missing
      obtain ⟨⟨known, uncounted⟩, rfl⟩ := missing
      exact ⟨rfl, known, uncounted⟩
    · rintro ⟨same, known, uncounted⟩
      cases same
      simp [missing?, known, uncounted]
  | _ => simp [missing?]

/-- A target that has a count has a known one unless a group's count has to be asked for. -/
theorem measures_iff :
    fleet.measures target ↔
      (∃ n, fleet.count? target = some n) ∨ ∃ group, fleet.missing? target = some group := by
  cases target with
  | devices ids => cases ids <;> simp [measures, count?, missing?]
  | group name =>
    cases known : fleet.groups.contains name <;> cases counted : fleet.counts.get? name <;>
      simp [measures, count?, missing?, known, counted]
  | _ => simp [measures, count?, missing?]

/-- No count is known if one has to be asked for, or if there is none to be known. -/
theorem count?_eq_none_iff :
    fleet.count? target = none ↔
      (∃ group, fleet.missing? target = some group) ∨ fleet.measures target = false := by
  cases target with
  | devices ids => cases ids <;> simp [measures, count?, missing?]
  | group name =>
    cases known : fleet.groups.contains name <;> cases counted : fleet.counts.get? name <;>
      simp [measures, count?, missing?, known, counted]
  | _ => simp [measures, count?, missing?]

theorem measures_eq_false_iff :
    fleet.measures target = false ↔
      target = .unselected ∨ target = .devices [] ∨
        (∃ name, target = .group name ∧ fleet.groups.get? name = none) ∨
        ∃ saved, target = .filter saved := by
  cases target with
  | devices ids => simp [measures]
  | group name => simp [measures, Dict.contains]
  | _ => simp [measures]

theorem measures_of_mode_none (unselected : target.mode = none) :
    fleet.measures target = false := by
  cases target with
  | unselected => rfl
  | devices ids => cases ids <;> simp_all [measures, Target.mode]
  | _ => contradiction

end Fleet

namespace Selection

/-- Resolving writes what target and fleet say; a count that they do not tell stays. -/
theorem resolve_selection (s : Selection) (fleet : Fleet) :
    (s.resolve fleet).1 =
      { s with
        resolvedDeviceCount := (fleet.count? s.target).getD s.resolvedDeviceCount
        resolvedDeviceIds := s.target.ids
        resolvedDevices := s.target.ids.map (DeviceRecord.join · fleet.devices)
        resolvedFilterId := fleet.filterId? s.target } := by
  unfold resolve
  split
  all_goals rename_i target
  · simp [target, Fleet.count?, Fleet.filterId?, Target.ids]
  · simp [target, Fleet.count?, Fleet.filterId?, Target.ids, underived]
  · split
    · rename_i unknown
      simp [target, Fleet.count?, Fleet.filterId?, Target.ids, underived, Dict.contains, unknown]
    · rename_i info known
      split <;> rename_i counted <;>
        simp [target, Fleet.count?, Fleet.filterId?, Target.ids, underived, Dict.contains, known,
          counted]
  all_goals simp [target, Fleet.count?, Fleet.filterId?, Target.ids, underived]

/-- Resolving asks for the count of a group exactly if the target is that known group and its count
is not known. -/
theorem resolution_eq (s : Selection) (fleet : Fleet) :
    (s.resolve fleet).2 =
      match fleet.missing? s.target with
      | none => .resolved
      | some group => .needsCount group := by
  unfold resolve
  split
  all_goals rename_i target
  · simp [target, Fleet.missing?]
  · simp [target, Fleet.missing?]
  · split
    · rename_i unknown
      simp [target, Fleet.missing?, Dict.contains, unknown]
    · rename_i info known
      split <;> rename_i counted <;> simp [target, Fleet.missing?, Dict.contains, known, counted]
  all_goals simp [target, Fleet.missing?]

theorem resolution_eq_needsCount {s : Selection} {fleet : Fleet} {group : String} :
    (s.resolve fleet).2 = .needsCount group ↔ fleet.missing? s.target = some group := by
  rw [resolution_eq]
  cases fleet.missing? s.target <;> simp

@[simp] theorem resolve_target (s : Selection) (fleet : Fleet) :
    (s.resolve fleet).1.target = s.target := by rw [resolve_selection]

@[simp] theorem setTarget_target (s : Selection) (target : Target) :
    (s.setTarget target).target = target := by
  unfold setTarget
  split
  · assumption
  · rfl

@[simp] theorem setTarget_count (s : Selection) (target : Target) :
    (s.setTarget target).resolvedDeviceCount = s.resolvedDeviceCount := by
  unfold setTarget
  split <;> rfl

theorem resolve_count (s : Selection) (fleet : Fleet) :
    (s.resolve fleet).1.resolvedDeviceCount =
      (fleet.count? s.target).getD s.resolvedDeviceCount := by
  rw [resolve_selection]

/-- Any device count from before stays if and only if the target's own is not known. -/
theorem count_stays_iff {fleet : Fleet} {target : Target} :
    (∀ s : Selection, s.target = target →
        (s.resolve fleet).1.resolvedDeviceCount = s.resolvedDeviceCount) ↔
      fleet.count? target = none := by
  constructor
  · intro stays
    cases counted : fleet.count? target with
    | none => rfl
    | some n =>
      have told (before : UInt64) : n = before := by
        have same := stays { target := target, resolvedDeviceCount := before } rfl
        rwa [resolve_count, counted] at same
      have absurdity : (0 : UInt64) = 1 := (told 0).symm.trans (told 1)
      contradiction
  · rintro unknown s rfl
    rw [resolve_count, unknown, Option.getD_none]

/-- Resolving replaces the derived fields and nothing else, and a second time changes nothing. Of
what the derived fields were before, ids, records, filter id and the resolution take nothing. The
device count stays what it was if and only if it has to be asked for or the target has none of its
own; otherwise target and fleet alone decide it. -/
theorem resolve_starts_afresh (s : Selection) (fleet : Fleet) :
    (s.resolve fleet).1 =
      { s with
        resolvedDeviceCount := (s.resolve fleet).1.resolvedDeviceCount
        resolvedDeviceIds := (s.resolve fleet).1.resolvedDeviceIds
        resolvedDevices := (s.resolve fleet).1.resolvedDevices
        resolvedFilterId := (s.resolve fleet).1.resolvedFilterId } ∧
    (s.resolve fleet).1.resolve fleet = s.resolve fleet ∧
    (∀ t : Selection, t.target = s.target →
      (t.resolve fleet).1.resolvedDeviceIds = (s.resolve fleet).1.resolvedDeviceIds ∧
      (t.resolve fleet).1.resolvedDevices = (s.resolve fleet).1.resolvedDevices ∧
      (t.resolve fleet).1.resolvedFilterId = (s.resolve fleet).1.resolvedFilterId ∧
      (t.resolve fleet).2 = (s.resolve fleet).2) ∧
    ((∀ t : Selection, t.target = s.target →
        (t.resolve fleet).1.resolvedDeviceCount = t.resolvedDeviceCount) ↔
      (∃ group, (s.resolve fleet).2 = .needsCount group) ∨ s.target = .unselected ∨
        s.target = .devices [] ∨
        (∃ name, s.target = .group name ∧ fleet.groups.get? name = none) ∨
        ∃ saved, s.target = .filter saved) ∧
    ((∀ t : Selection, t.target = s.target →
        (t.resolve fleet).1.resolvedDeviceCount = t.resolvedDeviceCount) ∨
      ∃ n, ∀ t : Selection, t.target = s.target →
        (t.resolve fleet).1.resolvedDeviceCount = n) := by
  refine ⟨?_, ?_, ?_, ?_, ?_⟩
  · simp only [resolve_selection]
  · apply Prod.ext
    · simp only [resolve_selection]
      cases fleet.count? s.target <;> rfl
    · rw [resolution_eq, resolution_eq, resolve_target]
  · intro t same
    simp only [resolve_selection, resolution_eq, same, and_self]
  · rw [count_stays_iff, Fleet.count?_eq_none_iff, Fleet.measures_eq_false_iff]
    simp only [resolution_eq_needsCount]
  · cases counted : fleet.count? s.target with
    | none => exact .inl (count_stays_iff.mpr counted)
    | some n =>
      refine .inr ⟨n, fun t same => ?_⟩
      rw [resolve_count, same, counted, Option.getD_some]

end Selection
end FleetRollout
