import FleetRollout.CommandLine.Arguments
import FleetRollout.Proofs.Rollout.Pattern
import FleetRollout.Proofs.Selection.Naming
import FleetRollout.Proofs.Text.Pieces

/-! Which arguments are accepted, and what they then say. Exactly one of four options has to name the
target. An empty group is taken for such an option too, though it names no devices. -/
namespace FleetRollout.CommandLine
open Text Rollout

inductive TargetOption where
  | devices
  | group
  | allDevices
  | filter
deriving DecidableEq

namespace TargetOption

theorem forall_iff {p : TargetOption → Prop} :
    (∀ n, p n) ↔ p devices ∧ p group ∧ p allDevices ∧ p filter :=
  ⟨fun all => ⟨all _, all _, all _, all _⟩, fun ⟨_, _, _, _⟩ n => by cases n <;> assumption⟩

theorem exists_iff {p : TargetOption → Prop} :
    (∃ n, p n) ↔ p devices ∨ p group ∨ p allDevices ∨ p filter := by
  constructor
  · rintro ⟨_ | _ | _ | _, found⟩ <;> simp [found]
  · rintro (found | found | found | found) <;> exact ⟨_, found⟩

/-- What each option names as a target, if it is used. -/
inductive Names (values : Dict String) : TargetOption → Target → Prop
  | devices {text : String} (given : values.get? "devices" = some text)
      (some : deviceIds text ≠ []) : Names values .devices (.devices (deviceIds text))
  | label (given : values.get? "group" = some Target.allDevicesLabel) :
      Names values .group .allDevices
  | group {name : String} (given : values.get? "group" = some name)
      (other : name ≠ Target.allDevicesLabel) (some : name ≠ "") :
      Names values .group (.group name)
  /-- An empty name is an option that is used, and names nothing. -/
  | nothing (given : values.get? "group" = some "") : Names values .group .unselected
  | allDevices {text : String} (given : values.get? "all-devices" = some text)
      (some : text ≠ "false") : Names values .allDevices .allDevices
  /-- The name of a filter is its id unless it is given. -/
  | filter {id : String} (given : values.get? "filter-id" = some id) :
      Names values .filter (.filter ⟨id, (values.get? "filter-name").getD id⟩)

def InEffect (values : Dict String) (n : TargetOption) : Prop := ∃ t, Names values n t

/-- The only option in effect names the target. -/
def Sole (values : Dict String) (t : Target) : Prop :=
  ∃ n, Names values n t ∧ ∀ m, InEffect values m → m = n

variable {values : Dict String} {n : TargetOption} {t : Target} {key text : String}

theorem flag_eq_true :
    flag values key = true ↔ ∃ text, values.get? key = some text ∧ text ≠ "false" := by
  unfold flag
  cases values.get? key <;> simp

def ids (values : Dict String) : List DeviceId :=
  match values.get? "devices" with
  | some text => deviceIds text
  | none => []

def uses (values : Dict String) : TargetOption → Bool
  | devices => !(ids values).isEmpty
  | group => (values.get? "group").isSome
  | allDevices => flag values "all-devices"
  | filter => (values.get? "filter-id").isSome

/-- Options count as used exactly if they name a target. -/
theorem uses_iff : uses values n = true ↔ InEffect values n := by
  cases n with
  | devices =>
    rw [uses, ids, InEffect]
    constructor
    · intro used
      cases given : values.get? "devices" with
      | none => simp [given] at used
      | some text => exact ⟨_, .devices given (by simpa [given] using used)⟩
    · rintro ⟨_, names⟩
      cases names with
      | devices given some => simpa [given] using some
  | group =>
    rw [uses, InEffect, Option.isSome_iff_exists]
    constructor
    · rintro ⟨name, given⟩
      by_cases label : name = Target.allDevicesLabel
      · exact ⟨_, .label (label ▸ given)⟩
      · by_cases empty : name = ""
        · exact ⟨_, .nothing (empty ▸ given)⟩
        · exact ⟨_, .group given label empty⟩
    · rintro ⟨_, names⟩
      cases names with
      | label given | group given | nothing given => exact ⟨_, given⟩
  | allDevices =>
    rw [uses, InEffect, flag_eq_true]
    constructor
    · rintro ⟨text, given, some⟩
      exact ⟨_, .allDevices given some⟩
    · rintro ⟨_, names⟩
      cases names with
      | allDevices given some => exact ⟨_, given, some⟩
  | filter =>
    rw [uses, InEffect, Option.isSome_iff_exists]
    constructor
    · rintro ⟨id, given⟩
      exact ⟨_, .filter given⟩
    · rintro ⟨_, names⟩
      cases names with
      | filter given => exact ⟨_, given⟩

theorem count_eq_one {used : TargetOption → Bool} :
    [used devices, used group, used allDevices, used filter].count true = 1 ↔
      ∃ n, used n = true ∧ ∀ m, used m = true → m = n := by
  simp only [exists_iff, forall_iff]
  cases used devices <;> cases used group <;> cases used allDevices <;> cases used filter <;> simp

def targetOf (values : Dict String) : Target :=
  if flag values "all-devices" then .allDevices
  else
    .ofFields (ids values) (values.get? "group")
      ((values.get? "filter-id").map fun id => ⟨id, (values.get? "filter-name").getD id⟩)

/-- The choice between the options agrees with the only one that is in effect. -/
theorem Sole.targetOf_eq (sole : Sole values t) : targetOf values = t := by
  obtain ⟨n, names, only⟩ := sole
  have unused : ∀ m, m ≠ n → uses values m = false := by
    intro m other
    rw [Bool.eq_false_iff]
    exact fun used => other (only m (uses_iff.mp used))
  simp only [forall_iff, uses] at unused
  cases names with
  | devices given some => simp [targetOf, Target.ofFields, ids, given, some, unused]
  | label given => simp_all [targetOf, Target.ofFields]
  | group given other some => simp_all [targetOf, Target.ofFields]
  | nothing given => simp_all [targetOf, Target.ofFields, Target.allDevicesLabel]
  | allDevices given some => simp [targetOf, flag_eq_true.mpr ⟨_, given, some⟩]
  | filter given => simp_all [targetOf, Target.ofFields]

end TargetOption

variable {values : Dict String} {t : Target} {a : DeployArguments}

section
open TargetOption

theorem targetArgument_eq (values : Dict String) :
    targetArgument values =
      if [uses values .devices, uses values .group, uses values .allDevices,
          uses values .filter].count true ≠ 1 then .error (.validation .oneTargetRequired)
      else .ok (targetOf values) := by
  simp only [targetArgument, Option.isSome_map]
  rfl

/-- The target is that of the only option in effect; without such an option there is none. -/
theorem targetArgument_cases (values : Dict String) :
    (∃ t, Sole values t ∧ targetArgument values = .ok t) ∨
    (∀ t, ¬ Sole values t) ∧
      targetArgument values = .error (.validation .oneTargetRequired) := by
  rw [targetArgument_eq]
  by_cases one : ∃ n, uses values n = true ∧ ∀ m, uses values m = true → m = n
  · obtain ⟨n, used, only⟩ := one
    obtain ⟨t, names⟩ := uses_iff.mp used
    have sole : Sole values t := ⟨n, names, fun m used => only m (uses_iff.mpr used)⟩
    refine .inl ⟨t, sole, ?_⟩
    rw [if_neg (not_not.mpr (count_eq_one.mpr ⟨n, used, only⟩)), sole.targetOf_eq]
  · refine .inr ⟨?_, if_pos fun count => one (count_eq_one.mp count)⟩
    rintro t ⟨n, names, only⟩
    exact one ⟨n, uses_iff.mpr ⟨t, names⟩, fun m used => only m (uses_iff.mp used)⟩

theorem targetArgument_eq_ok : targetArgument values = .ok t ↔ Sole values t := by
  constructor
  · intro accepted
    obtain ⟨_, sole, found⟩ | ⟨_, fails⟩ := targetArgument_cases values
    · rw [found] at accepted
      exact Except.ok.inj accepted ▸ sole
    · rw [fails] at accepted
      contradiction
  · intro sole
    obtain ⟨_, other, found⟩ | ⟨none, _⟩ := targetArgument_cases values
    · rw [found, ← other.targetOf_eq, sole.targetOf_eq]
    · exact absurd sole (none t)

end

/-- The target of the only option in effect names devices, unless that option is an empty group. -/
theorem TargetOption.Sole.namesDevices_iff (sole : TargetOption.Sole values t) :
    t.NamesDevices ↔ values.get? "group" ≠ some "" := by
  obtain ⟨n, names, only⟩ := sole
  have named (other : .group ≠ n) : values.get? "group" ≠ some "" :=
    fun given => other (only _ ⟨_, .nothing given⟩)
  cases names with
  | devices given some => exact iff_of_true some (named (by decide))
  | label given => simp [Target.NamesDevices, given, Target.allDevicesLabel]
  | group given other some => simp [Target.NamesDevices, given, some]
  | nothing given => simp [Target.NamesDevices, given]
  | allDevices given some => exact iff_of_true trivial (named (by decide))
  | filter given => exact iff_of_true trivial (named (by decide))

theorem deviceIds_intercalate {items : List (List Char)} (nonempty : items ≠ [])
    (free : ∀ item ∈ items, ',' ∉ item) :
    deviceIds (String.ofList ([','].intercalate items)) =
      ((items.map trim).filter (· ≠ [])).map String.ofList := by
  rw [deviceIds, String.toList_ofList, pieces_intercalate nonempty free, List.filter_map,
    List.filter_map, List.map_map]
  refine congrArg (List.map _) (List.filter_congr fun item _ => ?_)
  rw [Bool.eq_iff_iff]
  simp

theorem releaseArgument_eq_ok {name : String} :
    releaseArgument values = .ok name ↔ values.get? "release" = some name ∧ name ≠ "" := by
  unfold releaseArgument
  cases values.get? "release" with
  | none => simp
  | some other =>
    by_cases empty : other = ""
    · subst empty
      simp
    · simp only [String.isEmpty_iff, empty, if_false, Except.ok.injEq, Option.some.injEq]
      constructor
      · rintro rfl
        exact ⟨rfl, empty⟩
      · exact And.left

theorem releaseArgument_cases (values : Dict String) :
    (∃ name, releaseArgument values = .ok name) ∨
      releaseArgument values = .error (.validation .releaseRequired) := by
  unfold releaseArgument
  split
  · split
    · exact .inr rfl
    · exact .inl ⟨_, rfl⟩
  · exact .inr rfl

/-- What the phases come to, if they are given: those a pattern spells, or those of the last
deployment in phases. -/
inductive GivesPhases : Option String → Option (List Phase) → Bool → Prop
  | absent : GivesPhases none none false
  | previous : GivesPhases (some "previous") none true
  | pattern {text : String} {phases : List Phase} (other : text ≠ "previous")
      (spelled : SpellsPattern text.toList phases) : GivesPhases (some text) (some phases) false

theorem GivesPhases.previous_eq {phases : Option (List Phase)} {previous : Bool}
    (gives : GivesPhases (values.get? "phases") phases previous) :
    previous = asksForPrevious values := by
  unfold asksForPrevious
  generalize values.get? "phases" = given at gives
  cases gives with
  | absent | previous => rfl
  | pattern other => simp [other]

theorem phasesArgument_eq_ok {phases : Option (List Phase)} :
    phasesArgument values = .ok phases ↔
      GivesPhases (values.get? "phases") phases (asksForPrevious values) := by
  unfold phasesArgument asksForPrevious
  cases values.get? "phases" with
  | none =>
    constructor
    · rintro ⟨⟩
      exact .absent
    · rintro ⟨⟩
      rfl
  | some text =>
    by_cases previous : text = "previous"
    · subst previous
      constructor
      · rintro ⟨⟩
        exact .previous
      · intro gives
        generalize said : decide (some "previous" = some "previous") = b at gives
        cases gives with
        | previous => rfl
        | pattern other => contradiction
    · have other : decide (some text = some "previous") = false := by simp [previous]
      simp only [other]
      constructor
      · intro reads
        cases spelled : parsePattern text with
        | error e => simp [spelled, Except.map] at reads
        | ok read =>
          simp [spelled, Except.map] at reads
          subst phases
          exact .pattern previous (parsePattern_eq_ok.mp spelled)
      · intro gives
        cases gives with
        | pattern _ spelled => simp [parsePattern_eq_ok.mpr spelled, Except.map]

inductive GivesNumber (toNat : α → Nat) : Option String → Option α → Prop
  | absent : GivesNumber toNat none none
  | given {text : String} {n : α} (spelled : SpellsNat text.toList (toNat n)) :
      GivesNumber toNat (some text) (some n)

theorem number_eq_ok {read : List Char → Option α} {toNat : α → Nat}
    (exact : ∀ cs n, read cs = some n ↔ SpellsNat cs (toNat n)) {key : String} {n : Option α} :
    number read values key = .ok n ↔ GivesNumber toNat (values.get? key) n := by
  unfold number
  cases values.get? key with
  | none =>
    constructor
    · rintro ⟨⟩
      exact .absent
    · rintro ⟨⟩
      rfl
  | some text =>
    constructor
    · intro accepted
      cases reads : read text.toList with
      | none => simp [reads] at accepted
      | some m =>
        simp only [reads, Except.ok.injEq] at accepted
        subst n
        exact .given ((exact _ _).mp reads)
    · intro gives
      cases gives with
      | given spelled => simp only [(exact _ _).mpr spelled]

theorem number32_eq_ok {key : String} {n : Option UInt32} :
    number readUInt32 values key = .ok n ↔ GivesNumber UInt32.toNat (values.get? key) n :=
  number_eq_ok fun _ _ => readUInt32_eq_some.trans spellsNumber_iff

theorem number64_eq_ok {key : String} {n : Option UInt64} :
    number readUInt64 values key = .ok n ↔ GivesNumber UInt64.toNat (values.get? key) n :=
  number_eq_ok fun _ _ => readUInt64_eq_some

/-- The values are accepted, and say so much. -/
structure Accepts (values : Dict String) (a : DeployArguments) : Prop where
  release : values.get? "release" = some a.release ∧ a.release ≠ ""
  target : TargetOption.Sole values a.target
  phases : GivesPhases (values.get? "phases") a.phases a.usePreviousPhases
  retries : GivesNumber UInt32.toNat (values.get? "retries") a.retries
  maxDevices : GivesNumber UInt64.toNat (values.get? "max-devices") a.maxDevices
  settingsPath : a.settingsPath = values.get? "settings"
  configDirectory : a.configDirectory = values.get? "config-dir"
  logDirectory : a.logDirectory = values.get? "log-dir"
  saveRetries : a.saveRetries = flag values "save-retries"
  force : a.force = flag values "force"
  delta : a.delta = flag values "delta"
  dryRun : a.dryRun = flag values "dry-run"
  yes : a.yes = flag values "yes"

theorem ofValues_eq_ok_iff : DeployArguments.ofValues values = .ok a ↔ Accepts values a := by
  constructor
  · intro accepted
    obtain ⟨release, named, accepted⟩ := bind_eq_ok.mp accepted
    obtain ⟨target, targeted, accepted⟩ := bind_eq_ok.mp accepted
    obtain ⟨phases, phased, accepted⟩ := bind_eq_ok.mp accepted
    obtain ⟨retries, retried, accepted⟩ := bind_eq_ok.mp accepted
    obtain ⟨maxDevices, limited, accepted⟩ := bind_eq_ok.mp accepted
    obtain rfl := Except.ok.inj accepted
    exact
      { release := releaseArgument_eq_ok.mp named
        target := targetArgument_eq_ok.mp targeted
        phases := phasesArgument_eq_ok.mp phased
        retries := number32_eq_ok.mp retried
        maxDevices := number64_eq_ok.mp limited
        settingsPath := rfl, configDirectory := rfl, logDirectory := rfl, saveRetries := rfl
        force := rfl, delta := rfl, dryRun := rfl, yes := rfl }
  · intro accepts
    have previous : a.usePreviousPhases = asksForPrevious values := accepts.phases.previous_eq
    have phased := phasesArgument_eq_ok.mpr (previous ▸ accepts.phases)
    rw [DeployArguments.ofValues, releaseArgument_eq_ok.mpr accepts.release,
      targetArgument_eq_ok.mpr accepts.target, phased, number32_eq_ok.mpr accepts.retries,
      number64_eq_ok.mpr accepts.maxDevices, ← previous, ← accepts.settingsPath,
      ← accepts.configDirectory, ← accepts.logDirectory, ← accepts.saveRetries, ← accepts.force,
      ← accepts.delta, ← accepts.dryRun, ← accepts.yes]
    rfl

/-- Previous phases are asked for only where none are spelled. -/
theorem GivesPhases.exclusive {given : Option String} {phases : Option (List Phase)}
    {previous : Bool} (gives : GivesPhases given phases previous) :
    phases = none ∨ previous = false := by
  cases gives with
  | absent | previous => exact .inl rfl
  | pattern => exact .inr rfl

theorem TargetOption.existsUnique_iff :
    (∃! n, TargetOption.InEffect values n) ↔ ∃ t, TargetOption.Sole values t := by
  constructor
  · rintro ⟨n, ⟨t, names⟩, only⟩
    exact ⟨t, n, names, only⟩
  · rintro ⟨t, n, names, only⟩
    exact ⟨n, ⟨t, names⟩, only⟩

theorem ofValues_of_no_target (none : ∀ t, ¬ TargetOption.Sole values t) :
    DeployArguments.ofValues values = .error (.validation .releaseRequired) ∨
      DeployArguments.ofValues values = .error (.validation .oneTargetRequired) := by
  obtain ⟨t, sole, _⟩ | ⟨_, fails⟩ := targetArgument_cases values
  · exact absurd sole (none t)
  · unfold DeployArguments.ofValues
    obtain ⟨name, released⟩ | missing := releaseArgument_cases values
    · exact .inr (by rw [released, fails]; rfl)
    · exact .inl (by rw [missing]; rfl)

/-- Arguments are accepted exactly if a release is given, one option in effect names the target, and
phases and numbers are spelled as such; they then say just that. Their target names devices, so that
a request can be made for it, unless a group is given and is empty. Without exactly one option in
effect they are refused. -/
theorem accepted_arguments_name_target (arguments : List String) :
    (∀ a, DeployArguments.ofValues (parse arguments) = .ok a ↔ Accepts (parse arguments) a) ∧
    (∀ a, DeployArguments.ofValues (parse arguments) = .ok a →
      (a.phases = none ∨ a.usePreviousPhases = false) ∧
      (a.target.mode ≠ none ↔ (parse arguments).get? "group" ≠ some "") ∧
      ∀ (s : Selection) flags now, s.target = a.target → s.release.isSome = true →
        s.StartsInRange now →
          ((∃ request, s.request flags now = .ok request) ↔
            (parse arguments).get? "group" ≠ some "")) ∧
    ((¬ ∃! n, TargetOption.InEffect (parse arguments) n) →
      DeployArguments.ofValues (parse arguments) = .error (.validation .releaseRequired) ∨
        DeployArguments.ofValues (parse arguments) = .error (.validation .oneTargetRequired)) ∧
    (∀ items : List (List Char), items ≠ [] → (∀ item ∈ items, ',' ∉ item) →
      deviceIds (String.ofList ([','].intercalate items)) =
        ((items.map trim).filter (· ≠ [])).map String.ofList) := by
  refine ⟨fun a => ofValues_eq_ok_iff, ?_, ?_, fun _ => deviceIds_intercalate⟩
  · intro a accepted
    have accepts := ofValues_eq_ok_iff.mp accepted
    have names := accepts.target.namesDevices_iff
    refine ⟨accepts.phases.exclusive, ?_, ?_⟩
    · rw [← names, ← Target.mode_isSome_iff, Option.isSome_iff_ne_none]
    · intro s flags now target released inRange
      rw [← names, ← target]
      exact Selection.exists_request_iff released inRange
  · intro several
    refine ofValues_of_no_target fun t sole => several ?_
    exact TargetOption.existsUnique_iff.mpr ⟨t, sole⟩

example : (DeployArguments.ofValues (parse
    ["--release=app-1", "--devices= a,, b ", "--all-devices=false", "--retries=+02"])).map
      (fun a => (a.target, a.retries)) = .ok (.devices ["a", "b"], some 2) := by decide +kernel

/-- A group is given, and is empty. -/
theorem not_accepted_arguments_name_target :
    ¬ ∀ arguments a, DeployArguments.ofValues (parse arguments) = .ok a → a.target.mode ≠ none := by
  intro all
  have accepted : DeployArguments.ofValues (parse ["--release=app-1", "--group="]) =
      .ok { release := "app-1", target := .unselected } := by decide +kernel
  exact all _ _ accepted rfl

end FleetRollout.CommandLine
