import FleetRollout.Proofs.Wizard.Capabilities
import FleetRollout.Proofs.Wizard.Targeting

/-! Saved filters in the requests of a tenant without full filtering. Opening marks no group as
backed by a filter, and filters cannot be picked; but groups that are set from outside keep the
filters that they come with, and those are sent. -/
namespace FleetRollout.Wizard
variable {w w' : Wizard} {turns : List Turn}

def Turn.suppliedGroups (before : List GroupInfo) (turn : Turn) : List GroupInfo :=
  match turn.move with
  | .perform (.setGroups groups) _ (.ticket _) => groups
  | .perform .open _ .done => []
  | _ => before

def suppliedGroups (turns : List Turn) : List GroupInfo := turns.foldl Turn.suppliedGroups []

/-- The filter behind a group of the given ones, of which the last one of a name counts. -/
def filterBehind (groups : List GroupInfo) (name : String) : Option String :=
  ((GroupInfo.byName groups).get? name).bind GroupInfo.filterId

/-- Without full filtering, no group is loaded as backed by a filter. -/
theorem Opening.filterId_of_limited {options : Options} (o : Opening)
    (limited : options.hasFullFiltering = false) (name : String) :
    ((o.knownGroups options).get? name).bind GroupInfo.filterId = none := by
  cases found : (o.knownGroups options).get? name with
  | none => rfl
  | some info =>
    rw [Opening.knownGroups, Opening.knownFilters, limited, if_neg (by decide)] at found
    have member := Dict.mem_of_get?_ofList found
    simp only [List.map_nil, List.append_nil, List.mem_map, Prod.mk.injEq] at member
    obtain ⟨_, _, _, rfl⟩ := member
    rfl

theorem Step.filterId? {move : Move} {groups : List GroupInfo}
    (limited : w.options.hasFullFiltering = false) (step : Step w move w')
    (before : ∀ name, w.fleet.filterId? (.group name) = filterBehind groups name) (name : String) :
    w'.fleet.filterId? (.group name) =
      filterBehind ((Turn.mk w move w').suppliedGroups groups) name := by
  cases step with
  | guard use => exact before name
  | @perform operation exchanges reply _ runs =>
    have step := Step.perform runs
    have effect : Effect w operation reply w' := step.effect
    cases effect with
    | opened =>
      obtain ⟨lifecycle, o, _, _, same⟩ := step.opened
      have loaded : (w.opened lifecycle o).fleet.groups = o.knownGroups w.options := by
        simp [Wizard.opened, restarted]
      rw [same, Fleet.filterId?, loaded]
      exact o.filterId_of_limited limited name
    | groups settles =>
      rw [settles, settled_fleet]
      rfl
    | refused => cases operation <;> exact before name
    | chosen editable plain => cases operation <;> first | exact before name | contradiction
    | targeted editable available settles =>
      rw [settles, settled_fleet]
      exact before name
    | accepted settles | devices settles =>
      rw [settles, settled_fleet]
      exact before name
    | loaded | counted | refreshed =>
      rw [settled_fleet]
      exact before name
    | sent answer => cases answer <;> exact before name
    | _ => exact before name

theorem History.filterId? {options : Options} (limited : options.hasFullFiltering = false)
    (history : History (new options) turns w) (name : String) :
    w.fleet.filterId? (.group name) = filterBehind (suppliedGroups turns) name := by
  have kept : w.options.hasFullFiltering = false ∧
      ∀ name, w.fleet.filterId? (.group name) = filterBehind (suppliedGroups turns) name := by
    refine history.recorded (P := fun groups w => w.options.hasFullFiltering = false ∧
      ∀ name, w.fleet.filterId? (.group name) = filterBehind groups name) ⟨limited, fun _ => rfl⟩ ?_
    rintro groups w move w' ⟨limited, before⟩ step
    exact ⟨step.options ▸ limited, step.filterId? limited before⟩
  exact kept.2 name

/-- The filter behind the group that was picked last, as the groups that were set last tell it. -/
def suppliedFilter? (turns : List Turn) : Option String :=
  match pickedTarget turns with
  | some (.group name) => filterBehind (suppliedGroups turns) name
  | _ => none

theorem preview_filterId {options : Options} {now : Instant} {request : DeploymentRequest}
    (limited : options.hasFullFiltering = false) (history : History (new options) turns w)
    (made : w.preview now = .ok request) : request.filterId = suppliedFilter? turns := by
  obtain ⟨target, picked, isFor⟩ := preview_isFor history made
  have selected : w.selection.target = target := by
    rw [history.target, picked]
    rfl
  rw [suppliedFilter?, picked]
  cases target with
  | unselected => exact isFor.elim
  | devices ids => exact isFor.2.2.2.2
  | allDevices => exact isFor.2.2.2.2
  | filter f =>
    have full := history.permitted.filters f selected
    rw [history.options, limited] at full
    contradiction
  | group name =>
    have behind := history.filterId? limited name
    rw [Fleet.filterId?] at behind
    obtain ⟨_, _, _, filtered⟩ := isFor
    rw [behind] at filtered
    simp only
    cases found : filterBehind (suppliedGroups turns) name with
    | none =>
      rw [found] at filtered
      exact filtered.2
    | some id =>
      rw [found] at filtered
      exact filtered.1

/-- Of a tenant without full filtering, every request that is shown or sent has the filter that the
group picked last came with when the groups were set from outside, if it did; no other. -/
theorem filters_sent_iff_supplied {options : Options} (limited : options.hasFullFiltering = false)
    (history : History (new options) turns w) :
    (∀ now request, w.preview now = .ok request → request.filterId = suppliedFilter? turns) ∧
    ∀ earlier turn later, turns = earlier ++ turn :: later → ∀ request ∈ turn.requests,
      request.filterId = suppliedFilter? earlier := by
  refine ⟨fun now request made => preview_filterId limited history made, ?_⟩
  intro earlier turn later parts request sent
  obtain ⟨before, step⟩ := history.split parts
  obtain ⟨now, made⟩ := step.requests request sent
  exact preview_filterId limited before made

/-- A wizard of a tenant without full filtering. The group that was picked was set from outside and
came with a filter. -/
@[irreducible] def supplied : Wizard :=
  World.play { api := { releases := ["v2"] } } (new {})
    [.open, .setGroups [⟨"lab", some "f-9"⟩], .selectRelease "v2", .selectTarget (.group "lab")]

theorem supplied_history : ∃ turns, History (new {}) turns supplied := by
  unfold supplied
  exact World.play_history _ _ _

theorem supplied_preview {request : DeploymentRequest}
    (made : supplied.preview default = .ok request) : request.filterId = some "f-9" := by
  have shown :
      (supplied.preview default).toOption.bind DeploymentRequest.filterId = some "f-9" := by
    decide +kernel
  rwa [made] at shown

/-- The filter is sent. -/
theorem filters_sent_iff_supplied_lab :
    ∃ turns exchanges reply w' request, History (new {}) turns supplied ∧
      Step supplied (.perform (.submit true default) exchanges reply) w' ∧
      creations exchanges = [request] ∧ request.filterId = some "f-9" ∧
      suppliedFilter? turns = some "f-9" := by
  obtain ⟨turns, history⟩ := supplied_history
  have unrefused : (supplied.refusal? true default).isNone = true := by decide +kernel
  obtain ⟨exchanges, reply, w', request, step, created, made⟩ :=
    Step.submit_of_unrefused (Option.isNone_iff_eq_none.mp unrefused)
  have behind := (filters_sent_iff_supplied rfl (history.next step)).2
    turns _ [] rfl request (by simp [Turn.requests, created])
  have sent := supplied_preview made
  exact ⟨turns, exchanges, _, _, request, history, step, created, sent, behind.symm.trans sent⟩

theorem not_filters_unsent :
    ¬ ∀ (options : Options) (turns : List Turn) (w : Wizard), options.hasFullFiltering = false →
      History (new options) turns w →
      (∀ now request, w.preview now = .ok request → request.filterId = none) ∧
      ∀ turn ∈ turns, ∀ request ∈ turn.requests, request.filterId = none := by
  intro unsent
  obtain ⟨turns, history⟩ := supplied_history
  have makes : (supplied.preview default).toOption.isSome = true := by decide +kernel
  cases made : supplied.preview default with
  | error e =>
    rw [made] at makes
    contradiction
  | ok request =>
    have none := (unsent {} turns supplied rfl history).1 default request made
    rw [supplied_preview made] at none
    contradiction

end FleetRollout.Wizard
