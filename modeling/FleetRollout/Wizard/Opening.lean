import FleetRollout.Wizard.Basic

/-! Opening a wizard, which loads what is known of the fleet, and closing it. What cannot be loaded
counts as empty, and the log says so. -/
namespace FleetRollout.Wizard

/-- The answer of a call, or a substitute for it; then the log says why. -/
def callOr (c : Call) (level : LogLevel) (complaint : String) (substitute : c.Answer) :
    Program c.Answer := do
  match ← call c with
  | .ok answer => return answer
  | .error e =>
    log level (complaint ++ ": " ++ e.message)
    return substitute

/-- Groups of the given names; each one that a saved filter has the name of is backed by it. A
filter without such a group makes one. -/
def knownGroups (names : List String) (filters : List SavedFilter) : Dict GroupInfo :=
  .ofList (names.map (fun name => (name, { name := name })) ++
    filters.map fun f => (f.name, { name := f.name, filterId := some f.id }))

def loadFilters (w : Wizard) : Program (List SavedFilter) :=
  if w.options.hasFullFiltering then
    callOr .savedFilters .warn "Unable to load saved filters" ([] : List SavedFilter)
  else return []

/-- The wizard with a new selection and the reference data that was loaded; nothing is derived
yet. -/
def restarted (w : Wizard) (lifecycle : Lifecycle) (releases : List String) (accepted : UInt64)
    (groups : Dict GroupInfo) (hasDelta : Bool) : Wizard :=
  { w with
    lifecycle := lifecycle
    guard := w.guard.reset
    selection := { retries := w.options.defaultRetries }
    releases := releases
    fleet := { w.fleet with
      accepted := accepted
      groups := groups
      counts := w.fleet.counts.clear }
    hasDelta := hasDelta
    pending := none }

/-- Opens the wizard with a new selection and loads the reference data. -/
def «open» (w : Wizard) : Program (Except DeployError Unit × Wizard) := do
  match w.lifecycle.process .open with
  | .error e => return (.error e, w)
  | .ok lifecycle =>
    log .info "Opening deployment wizard..."
    let releases ← callOr (.releases w.options.releaseQuery) .warn
      "Unable to load releases" ([] : List String)
    let accepted ← callOr (.deviceCount none) .warn
      "Unable to load accepted device count" (0 : UInt64)
    let names ← callOr .groups .warn "Unable to load groups" ([] : List String)
    let filters ← w.loadFilters
    let config ← callOr .deploymentsConfig .debug
      "No deployments config available" ({} : DeploymentsConfig)
    let opened ← settle
      (w.restarted lifecycle releases accepted (knownGroups names filters) config.delta.enabled)
    return (.ok (), opened)

def close (w : Wizard) : Except DeployError Unit × Wizard :=
  w.edit do
    let lifecycle ← (← get).lifecycle.process .close
    modify fun w => { w with lifecycle := lifecycle, selection := {}, pending := none }

end FleetRollout.Wizard
