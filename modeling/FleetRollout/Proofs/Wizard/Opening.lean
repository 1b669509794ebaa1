import FleetRollout.Proofs.Wizard.Submission
import FleetRollout.Wizard.Operation

/-! What opening a wizard asks, and what it makes of the answers. -/
namespace FleetRollout.Wizard

@[simp] theorem answeredCalls_append (es later : List (Dialogue.Exchange interface)) :
    answeredCalls (es ++ later) = answeredCalls es ++ answeredCalls later := List.filterMap_append

structure Opening where
  releases : Except DeployError (List String)
  accepted : Except DeployError UInt64
  groups : Except DeployError (List String)
  filters : Except DeployError (List SavedFilter)
  config : Except DeployError DeploymentsConfig

namespace Opening

/-- Saved filters are asked for only where the tenant may use them. -/
def filterCalls (o : Opening) (options : Options) : List AnsweredCall :=
  if options.hasFullFiltering then [⟨.savedFilters, o.filters⟩] else []

def calls (o : Opening) (options : Options) : List AnsweredCall :=
  [⟨.releases options.releaseQuery, o.releases⟩, ⟨.deviceCount none, o.accepted⟩,
    ⟨.groups, o.groups⟩] ++ o.filterCalls options ++ [⟨.deploymentsConfig, o.config⟩]

def knownFilters (o : Opening) (options : Options) : List SavedFilter :=
  if options.hasFullFiltering then o.filters.toOption.getD [] else []

def knownGroups (o : Opening) (options : Options) : Dict GroupInfo :=
  Wizard.knownGroups (o.groups.toOption.getD []) (o.knownFilters options)

/-- Whether delta artifacts are generated; not if the configuration cannot be loaded. -/
def deltas (o : Opening) : Bool := (o.config.toOption.getD {}).delta.enabled

end Opening

/-- A wizard that was opened. What could not be loaded counts as empty. -/
def opened (w : Wizard) (lifecycle : Lifecycle) (o : Opening) : Wizard :=
  (w.restarted lifecycle (o.releases.toOption.getD []) (o.accepted.toOption.getD 0)
    (o.knownGroups w.options) o.deltas).settled

theorem logAll_ensures (entries : List LogEntry) :
    (logAll entries).Ensures fun exchanges _ => answeredCalls exchanges = [] := by
  induction entries with
  | nil => rfl
  | cons e rest ih => exact fun _ => ih

theorem settle_ensures (w : Wizard) :
    (settle w).Ensures fun exchanges w' => answeredCalls exchanges = [] ∧ w' = w.settled := by
  refine Dialogue.ensures_bind.mpr ((logAll_ensures _).imp ?_)
  intro exchanges _ silent
  exact ⟨by simpa using silent, rfl⟩

theorem callOr_ensures (c : Call) (level : LogLevel) (complaint : String) (substitute : c.Answer) :
    (callOr c level complaint substitute).Ensures fun exchanges answer =>
      ∃ answered, answeredCalls exchanges = [⟨c, answered⟩] ∧
        answer = answered.toOption.getD substitute := by
  refine Dialogue.ensures_bind.mpr fun answered => ?_
  cases answered with
  | ok answer => exact ⟨.ok answer, rfl, rfl⟩
  | error e => exact fun _ => ⟨.error e, rfl, rfl⟩

variable {w : Wizard}

theorem loadFilters_ensures (w : Wizard) :
    w.loadFilters.Ensures fun exchanges filters => ∃ answered,
      answeredCalls exchanges =
        (if w.options.hasFullFiltering then [⟨.savedFilters, answered⟩] else []) ∧
      filters = if w.options.hasFullFiltering then answered.toOption.getD [] else [] := by
  unfold loadFilters
  split
  · rename_i full
    refine (callOr_ensures _ _ _ _).imp ?_
    rintro exchanges filters ⟨answered, asked, loaded⟩
    exact ⟨answered, by simpa [full] using asked, by simpa [full] using loaded⟩
  · exact ⟨.ok [], rfl, rfl⟩

/-- An opening that is refused asks nothing; any other loads what there is to load. -/
theorem open_ensures (w : Wizard) :
    w.open.Ensures fun exchanges r =>
      match w.lifecycle.process .open with
      | .error e => exchanges = [] ∧ r = (.error e, w)
      | .ok lifecycle => ∃ o : Opening,
        answeredCalls exchanges = o.calls w.options ∧ r = (.ok (), w.opened lifecycle o) := by
  unfold Wizard.open
  cases w.lifecycle.process .open with
  | error e => exact ⟨rfl, rfl⟩
  | ok lifecycle =>
    refine Dialogue.ensures_bind.mpr fun _ => ?_
    refine Dialogue.ensures_bind.mpr ((callOr_ensures _ _ _ _).imp ?_)
    rintro first _ ⟨releases, first_asked, rfl⟩
    refine Dialogue.ensures_bind.mpr ((callOr_ensures _ _ _ _).imp ?_)
    rintro second _ ⟨accepted, second_asked, rfl⟩
    refine Dialogue.ensures_bind.mpr ((callOr_ensures _ _ _ _).imp ?_)
    rintro third _ ⟨groups, third_asked, rfl⟩
    refine Dialogue.ensures_bind.mpr ((loadFilters_ensures w).imp ?_)
    rintro fourth _ ⟨filters, fourth_asked, rfl⟩
    refine Dialogue.ensures_bind.mpr ((callOr_ensures _ _ _ _).imp ?_)
    rintro fifth _ ⟨config, fifth_asked, rfl⟩
    refine Dialogue.ensures_bind.mpr ((settle_ensures _).imp ?_)
    rintro last _ ⟨silent, rfl⟩
    refine ⟨⟨releases, accepted, groups, filters, config⟩, ?_, rfl⟩
    simp only [answeredCalls_append, first_asked, second_asked, third_asked, fourth_asked,
      fifth_asked, silent]
    rfl

theorem perform_open_ensures (w : Wizard) :
    (w.perform .open).Ensures fun exchanges r =>
      match w.lifecycle.process .open with
      | .error e => exchanges = [] ∧ r = (.failed e, w)
      | .ok lifecycle => ∃ o : Opening,
        answeredCalls exchanges = o.calls w.options ∧ r = (.done, w.opened lifecycle o) := by
  refine Dialogue.ensures_bind.mpr ((open_ensures w).imp ?_)
  intro exchanges r ended
  cases opening : w.lifecycle.process .open with
  | error e =>
    simp only [opening] at ended
    obtain ⟨rfl, rfl⟩ := ended
    exact ⟨rfl, rfl⟩
  | ok lifecycle =>
    simp only [opening] at ended
    obtain ⟨o, asked, rfl⟩ := ended
    exact ⟨o, by simpa using asked, rfl⟩

end FleetRollout.Wizard
