import FleetRollout.Proofs.Deployment.Request
import FleetRollout.Proofs.Rollout.Anchors
import FleetRollout.Proofs.Selection.Contents
import FleetRollout.Proofs.Selection.Scheduling

/-! Which selections make a request, and how a request names the devices: by one of four fields, and
so by one of four members of its JSON. Nothing of this hangs on what was derived from the target. -/
namespace FleetRollout

/-- The target names devices: some of them one by one, a group, all of them, or a filter. -/
def Target.NamesDevices : Target → Prop
  | .unselected => False
  | .devices ids => ids ≠ []
  | .group _ | .allDevices | .filter _ => True

theorem Target.mode_isSome_iff {t : Target} : t.mode.isSome = true ↔ t.NamesDevices := by
  cases t with
  | devices ids => cases ids <;> simp [mode, NamesDevices]
  | unselected | group | allDevices | filter => simp [mode, NamesDevices]

/-- The devices of a request, as one of its fields names them. -/
inductive Addressee where
  | devices (ids : List String)
  | group (name : String)
  | allDevices (all : Bool)
  | filter (id : String)

namespace Addressee

def isMemberName (name : String) : Bool :=
  ["devices", "group", "all_devices", "filter_id"].contains name

def member : Addressee → String × Json
  | devices ids => ("devices", .strings ids)
  | group name => ("group", .str name)
  | allDevices all => ("all_devices", .bool all)
  | filter id => ("filter_id", .str id)

/-- The devices are named in the way of a target. A group may be named by a filter. -/
def Suits : Addressee → Target → Prop
  | devices ids, .devices _ => ids ≠ []
  | group name, .group other => name = other
  | filter _, .group _ => True
  | allDevices all, .allDevices => all = true
  | filter id, .filter f => id = f.id
  | _, _ => False

end Addressee

namespace DeploymentRequest

/-- What the four fields of a request say of its devices. -/
def addressees (r : DeploymentRequest) : List Addressee :=
  r.devices.toList.map .devices ++ r.group.toList.map .group ++
    r.allDevices.toList.map .allDevices ++ r.filterId.toList.map .filter

theorem present_eq_map (name : String) (write : α → Json) (a : Option α) :
    Json.present name write a = a.toList.map fun a => (name, write a) := by
  cases a <;> rfl

theorem filter_present (p : String → Bool) (name : String) (write : α → Json) (a : Option α) :
    (Json.present name write a).filter (fun m => p m.1) =
      if p name then Json.present name write a else [] := by
  cases a with
  | none => simp [Json.present]
  | some a =>
    by_cases found : p name = true
    · simp [Json.present, found]
    · simp [Json.present, found]

/-- A field is written as its member, and not at all if it is not set. -/
theorem filter_members (r : DeploymentRequest) :
    r.members.filter (fun m => Addressee.isMemberName m.1) = r.addressees.map Addressee.member := by
  have fields : r.addressees.map Addressee.member =
      Json.present "devices" Json.strings r.devices ++ Json.present "group" .str r.group ++
        Json.present "all_devices" .bool r.allDevices ++
        Json.present "filter_id" .str r.filterId := by
    simp only [addressees, present_eq_map, List.map_append, List.map_map]
    rfl
  rw [fields]
  simp only [members, List.filter_append, filter_present Addressee.isMemberName]
  simp [Addressee.isMemberName]

end DeploymentRequest

namespace Selection
open Rollout
variable {s : Selection} {flags : RequestFlags} {now : Instant} {r request : DeploymentRequest}

def StartsInRange (s : Selection) (now : Instant) : Prop :=
  ∀ phases, s.rollout? = some phases → ∀ i < phases.length,
    (base phases now i).second + waited phases i ≤ Instant.greatestSecond

theorem startsInRange_iff {phases : List Phase} (phased : s.rollout? = some phases) :
    s.StartsInRange now ↔ effectiveStarts phases now ≠ none := by
  rw [ne_eq, effectiveStarts_eq_none_iff]
  simp [StartsInRange, phased]

/-- Whatever was derived from the target, a request that is given its devices names them once. -/
theorem addressed_names_once (unnamed : r.addressees = []) (addressed : s.addressed r = .ok request) :
    ∃ addressee, request.addressees = [addressee] ∧ addressee.Suits s.target := by
  obtain ⟨⟨devices, group⟩, all, filter⟩ :
      ((r.devices = none ∧ r.group = none) ∧ r.allDevices = none ∧ r.filterId = none) := by
    simpa [DeploymentRequest.addressees, and_assoc] using unnamed
  unfold Selection.addressed at addressed
  cases target : s.target with
  | unselected => simp [target] at addressed
  | devices picked =>
    cases picked with
    | nil => simp [target] at addressed
    | cons first rest =>
      simp only [target, Except.ok.injEq] at addressed
      subst request
      refine ⟨_, by simp [DeploymentRequest.addressees, group, all, filter]; rfl, ?_⟩
      by_cases unresolved : s.resolvedDeviceIds = []
      · simp [Addressee.Suits, unresolved]
      · simp [Addressee.Suits, unresolved]
  | group name =>
    cases backing : s.resolvedFilterId with
    | some id =>
      simp only [target, backing, Except.ok.injEq] at addressed
      subst request
      exact ⟨.filter id, by simp [DeploymentRequest.addressees, devices, group, all], trivial⟩
    | none =>
      simp only [target, backing, Except.ok.injEq] at addressed
      subst request
      exact ⟨.group name, by simp [DeploymentRequest.addressees, devices, all, filter], rfl⟩
  | allDevices =>
    simp only [target, Except.ok.injEq] at addressed
    subst request
    exact ⟨.allDevices true, by simp [DeploymentRequest.addressees, devices, group, filter], rfl⟩
  | filter f =>
    simp only [target, Except.ok.injEq] at addressed
    subst request
    exact ⟨.filter f.id, by simp [DeploymentRequest.addressees, devices, group, all], rfl⟩

theorem length_requestPhases {phases : List Phase} {starts : List (Option Instant)}
    (same : starts.length = phases.length) : (requestPhases phases starts).length = phases.length := by
  cases phases with
  | nil => rfl
  | cons phase rest =>
    have told := congrArg List.length (requestPhases_columns phase rest same).1
    rw [List.length_map] at told
    exact told.trans same

/-- Only a start past the range keeps a request from its phases. -/
theorem scheduled_cases (unphased : r.phases = none) (now : Instant) :
    (s.StartsInRange now ∧ ∃ sent, s.scheduled r now = .ok { r with phases := sent } ∧
      sent.map List.length = s.rollout?.map List.length) ∨
    (¬ s.StartsInRange now ∧ s.scheduled r now = .error (.validation .startOutOfRange)) := by
  cases phased : s.rollout? with
  | none =>
    refine .inl ⟨?_, none, ?_, rfl⟩
    · intro phases some
      rw [phased] at some
      contradiction
    · rw [scheduled, phased, ← unphased]
  | some phases =>
    rw [startsInRange_iff phased]
    cases told : effectiveStarts phases now with
    | none =>
      refine .inr ⟨by simp, ?_⟩
      simp [scheduled, phased, startTimes_eq_error_iff.mpr told, bind, Except.bind]
    | some starts =>
      obtain _ | ⟨first, rest⟩ := phases
      · exact absurd rfl (rollout?_eq_some.mp phased).2
      · obtain ⟨later, _, same, times⟩ := startTimes_of_effectiveStarts told
        refine .inl ⟨by simp, _, scheduled_of_startTimes phased times, ?_⟩
        rw [Option.map_some, length_requestPhases (by simp [same])]
        rfl

/-- A request fails for one of three reasons, the first of them in this order, or is made. -/
theorem request_cases (s : Selection) (flags : RequestFlags) (now : Instant) :
    (s.release = none ∧ s.request flags now = .error (.validation .noRelease)) ∨
    (s.release.isSome = true ∧ ¬ s.target.NamesDevices ∧
      s.request flags now = .error (.validation .noTarget)) ∨
    (s.release.isSome = true ∧ s.target.NamesDevices ∧ ¬ s.StartsInRange now ∧
      s.request flags now = .error (.validation .startOutOfRange)) ∨
    (s.release.isSome = true ∧ s.target.NamesDevices ∧ s.StartsInRange now ∧
      ∃ request addressee, s.request flags now = .ok request ∧
        request.addressees = [addressee] ∧ addressee.Suits s.target ∧
        request.phases.map List.length = s.rollout?.map List.length) := by
  cases released : s.release with
  | none => exact .inl ⟨rfl, by simp [request, released]⟩
  | some release =>
    by_cases names : s.target.NamesDevices
    · obtain ⟨r, addressed⟩ := addressed_of_mode (r := s.draft release flags)
        (Target.mode_isSome_iff.mpr names)
      obtain ⟨addressee, once, suits⟩ := addressed_names_once rfl addressed
      have unphased : r.phases = none := by
        obtain ⟨_, _, _, _, _, rfl⟩ := addressed_eq_ok addressed
        rfl
      rcases scheduled_cases (s := s) unphased now with ⟨inRange, sent, made, lengths⟩ | ⟨past, fails⟩
      · refine .inr (.inr (.inr
          ⟨rfl, names, inRange, { r with phases := sent }, addressee, ?_, once, suits, lengths⟩))
        exact request_eq_ok.mpr ⟨release, r, released, addressed, made⟩
      · refine .inr (.inr (.inl ⟨rfl, names, past, ?_⟩))
        simp [request, released, addressed, fails, bind, Except.bind]
    · have none : s.target.mode = none := by
        rw [← Option.not_isSome_iff_eq_none, Target.mode_isSome_iff]
        exact names
      refine .inr (.inl ⟨rfl, names, ?_⟩)
      simp [request, released, addressed_of_mode_none none, bind, Except.bind]

/-- With a release and starts in range, a request is made exactly if the target names devices. -/
theorem exists_request_iff (released : s.release.isSome = true) (inRange : s.StartsInRange now) :
    (∃ request, s.request flags now = .ok request) ↔ s.target.NamesDevices := by
  obtain ⟨unreleased, _⟩ | ⟨_, unnamed, fails⟩ | ⟨_, _, past, _⟩ |
    ⟨_, named, _, request, _, made, _⟩ := s.request_cases flags now
  · rw [unreleased] at released
    contradiction
  · simp [fails, unnamed]
  · exact absurd inRange past
  · exact iff_of_true ⟨request, made⟩ named

/-- A request is made of a selection if and only if it has a release and a target that names devices,
and all its phases start in range; there are no other reasons to fail. The request names devices
once, in the way of the target, also in its JSON, and asks for what was chosen. -/
theorem request_names_devices_once (s : Selection) (flags : RequestFlags) (now : Instant) :
    ((∃ request, s.request flags now = .ok request) ↔
      s.release.isSome = true ∧ s.target.NamesDevices ∧ s.StartsInRange now) ∧
    (∀ e, s.request flags now = .error e ↔
      s.release = none ∧ e = .validation .noRelease ∨
      s.release.isSome = true ∧ ¬ s.target.NamesDevices ∧ e = .validation .noTarget ∨
      s.release.isSome = true ∧ s.target.NamesDevices ∧ ¬ s.StartsInRange now ∧
        e = .validation .startOutOfRange) ∧
    ∀ request, s.request flags now = .ok request →
      (∃ addressee members, request.addressees = [addressee] ∧ addressee.Suits s.target ∧
        request.toJson = .obj members ∧
        members.filter (fun m => Addressee.isMemberName m.1) = [addressee.member]) ∧
      (∀ sent, request.phases = some sent → sent ≠ []) ∧
      request.phases.map List.length = s.rollout?.map List.length ∧ request.Carries s flags := by
  refine ⟨?_, ?_, ?_⟩
  · rcases request_cases s flags now with
      ⟨unreleased, fails⟩ | ⟨_, unnamed, fails⟩ | ⟨_, _, past, fails⟩ |
      ⟨released, named, inRange, request, _, made, _⟩
    · simp [fails, unreleased]
    · simp [fails, unnamed]
    · simp [fails, past]
    · simp [made, released, named, inRange]
  · intro e
    rcases request_cases s flags now with
      ⟨unreleased, fails⟩ | ⟨released, unnamed, fails⟩ | ⟨released, named, past, fails⟩ |
      ⟨released, named, inRange, request, _, made, _⟩
    · simp [fails, unreleased, eq_comm]
    · simp [fails, unnamed, released, Option.ne_none_iff_isSome.mpr released, eq_comm]
    · simp [fails, past, named, released, Option.ne_none_iff_isSome.mpr released, eq_comm]
    · simp [made, inRange, named, Option.ne_none_iff_isSome.mpr released]
  · intro request made
    have carries := request_carries made
    rcases request_cases s flags now with
      ⟨_, fails⟩ | ⟨_, _, fails⟩ | ⟨_, _, _, fails⟩ |
      ⟨_, _, _, made', addressee, again, once, suits, lengths⟩
    · simp [fails] at made
    · simp [fails] at made
    · simp [fails] at made
    · rw [made, Except.ok.injEq] at again
      subst made'
      refine ⟨⟨addressee, request.members, once, suits, request.toJson_eq, ?_⟩, ?_, lengths, carries⟩
      · rw [request.filter_members, once]
        rfl
      · rintro sent phased rfl
        rw [phased] at lengths
        obtain ⟨phases, some, empty⟩ := Option.map_eq_some_iff.mp lengths.symm
        exact (rollout?_eq_some.mp some).2 (List.length_eq_zero_iff.mp empty)

/-- A group is picked, with device ids of another target and the filter that was behind one. -/
def stale : Selection :=
  { release := some ⟨"v2"⟩, target := .group "lab", resolvedDeviceIds := ["a"]
    resolvedFilterId := some "f-9", phases := some mixed }

theorem request_names_devices_once_stale :
    ∃ request addressee, stale.request {} .epoch = .ok request ∧
      request.addressees = [addressee] ∧ addressee.Suits (.group "lab") ∧
      request.phases.map List.length = some 3 := by
  obtain ⟨succeeds, _, names⟩ := request_names_devices_once stale {} .epoch
  have inRange : stale.StartsInRange .epoch := by
    rintro _ ⟨⟩
    decide
  obtain ⟨request, made⟩ := succeeds.mpr ⟨rfl, trivial, inRange⟩
  obtain ⟨⟨addressee, _, once, suits, _⟩, _, lengths, _⟩ := names request made
  exact ⟨request, addressee, made, once, suits, lengths⟩

end Selection
end FleetRollout
