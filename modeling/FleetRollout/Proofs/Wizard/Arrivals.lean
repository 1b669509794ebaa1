import FleetRollout.Proofs.Wizard.Tickets

/-! What is known of the fleet may arrive in any order: totals, devices, groups and the count that
is waited for. Each arrival brings the wizard in line at once, and of two of them it does not show
which one came first. -/
namespace FleetRollout

namespace Fleet

def withAccepted (total : UInt64) (fleet : Fleet) : Fleet := { fleet with accepted := total }

def withDevices (devices : DevicesById) (fleet : Fleet) : Fleet := { fleet with devices := devices }

def withGroups (groups : List GroupInfo) (fleet : Fleet) : Fleet :=
  { fleet with
    groups := GroupInfo.byName groups
    counts := fleet.counts.retain (GroupInfo.byName groups).contains }

def withCount (group : String) (total : UInt64) (fleet : Fleet) : Fleet :=
  { fleet with counts := fleet.counts.insert group total }

structure SparesGroups (change : Fleet → Fleet) : Prop where
  groups : ∀ fleet, (change fleet).groups = fleet.groups
  counts : ∀ fleet, (change fleet).counts = fleet.counts

theorem sparesGroups_withAccepted (total : UInt64) : SparesGroups (withAccepted total) :=
  ⟨fun _ => rfl, fun _ => rfl⟩

theorem sparesGroups_withDevices (devices : DevicesById) : SparesGroups (withDevices devices) :=
  ⟨fun _ => rfl, fun _ => rfl⟩

namespace SparesGroups
variable {change other : Fleet → Fleet}

theorem missing? (spares : SparesGroups change) (fleet : Fleet) (target : Target) :
    (change fleet).missing? target = fleet.missing? target := by
  cases target <;> simp [Fleet.missing?, spares.groups, spares.counts]

/-- A device count that is in line with the fleet is carried over to the same one, whether the
groups change or not. -/
theorem carried (spares : SparesGroups change) {fleet : Fleet} {target : Target} {count : UInt64}
    (inLine : ∀ n, fleet.count? target = some n → count = n) :
    ((change (other fleet)).count? target).getD (((other fleet).count? target).getD count) =
      ((change (other fleet)).count? target).getD (((change fleet).count? target).getD count) := by
  cases target with
  | group name =>
    have same (fleet : Fleet) :
        (change fleet).count? (.group name) = fleet.count? (.group name) := by
      simp [Fleet.count?, spares.groups, spares.counts]
    have kept : (fleet.count? (.group name)).getD count = count := by
      cases counted : fleet.count? (.group name) with
      | none => rfl
      | some n => exact (inLine n counted).symm
    rw [same, same, kept]
    cases (other fleet).count? (.group name) <;> rfl
  | devices ids => cases ids <;> rfl
  | _ => rfl

end SparesGroups
end Fleet

namespace Wizard
variable {w : Wizard} {change other : Fleet → Fleet}

/-- The pending ticket and the number of tickets once it is known whether a count is missing. -/
def ticketing (pending : Option Ticket) (issued : Nat) : Option String → Option Ticket × Nat
  | none => (none, issued)
  | some group =>
    if pending.any fun ticket => ticket.group = group then (pending, issued)
    else (some ⟨group, issued + 1⟩, issued + 1)

/-- Settling derives the fields and the ticket apart from each other. -/
theorem settled_ticketing (w : Wizard) :
    w.settled =
      { w.resolved with
        pending := (ticketing w.pending w.issued (w.fleet.missing? w.selection.target)).1
        issued := (ticketing w.pending w.issued (w.fleet.missing? w.selection.target)).2 } := by
  obtain ⟨missing, eq⟩ | ⟨ticket, missing, pending, eq⟩ | ⟨group, missing, other, eq⟩ :=
    settled_cases w
  · rw [eq, missing]
    rfl
  · have kept : ticketing w.pending w.issued (some ticket.group) = (w.pending, w.issued) := by
      simp [ticketing, pending]
    rw [eq, missing, kept]
    rfl
  · have fresh : ticketing w.pending w.issued (some group) =
        (some ⟨group, w.issued + 1⟩, w.issued + 1) := by
      simp only [ticketing, Option.any_eq_true, decide_eq_true_eq]
      rw [if_neg]
      rintro ⟨ticket, pending, same⟩
      exact other ticket pending same
    rw [eq, missing, fresh]

/-- The wizard in line with a changed fleet; unless it still waits, no count is waited for. -/
def changed (w : Wizard) (change : Fleet → Fleet) (waits : Bool) : Wizard :=
  { w with fleet := change w.fleet, pending := if waits then w.pending else none }.settled

/-- What spares the groups leaves the ticket alone. -/
theorem changed_eq_of_spares (inLine : InLine w) (spares : Fleet.SparesGroups change) :
    w.changed change true =
      { w with
        fleet := change w.fleet
        selection := (w.selection.resolve (change w.fleet)).1 } := by
  have kept : ticketing w.pending w.issued (w.fleet.missing? w.selection.target) =
      (w.pending, w.issued) := by
    rw [← inLine.pending]
    cases w.pending <;> simp [ticketing]
  unfold changed
  rw [settled_ticketing]
  simp only [spares.missing?, if_true, kept]
  rfl

theorem changed_comm {waits : Bool} (inLine : InLine w) (inLine' : InLine (w.changed other waits))
    (spares : Fleet.SparesGroups change)
    (comm : change (other w.fleet) = other (change w.fleet)) :
    (w.changed other waits).changed change true = (w.changed change true).changed other waits := by
  rw [changed_eq_of_spares inLine' spares, changed_eq_of_spares inLine spares]
  unfold changed
  simp only [settled_ticketing, resolved, ← comm, spares.missing?, Selection.resolve_selection]
  rw [spares.carried inLine.count]

def performAll (w : Wizard) : List Operation → Program Wizard
  | [] => return w
  | operation :: rest => do
    let (_, w') ← w.perform operation
    w'.performAll rest

/-- Two operations lead to the same wizard in either order, whatever is answered. -/
def Commute (w : Wizard) (a b : Operation) : Prop :=
  ∃ w', (w.performAll [a, b]).Always (· = w') ∧ (w.performAll [b, a]).Always (· = w')

/-- An operation leads to this wizard, whatever is answered. -/
def LeadsTo (w : Wizard) (operation : Operation) (w' : Wizard) : Prop :=
  (w.perform operation).Always fun r => r.2 = w'

variable {a b : Operation} {w' w'' : Wizard}

theorem LeadsTo.then (first : w.LeadsTo a w') (second : w'.LeadsTo b w'') :
    (w.performAll [a, b]).Always (· = w'') := by
  refine Dialogue.always_bind.mpr (Dialogue.Always.imp first ?_)
  rintro ⟨_, v⟩ rfl
  exact Dialogue.always_bind.mpr second

theorem LeadsTo.inLine (inLine : InLine w) (leads : w.LeadsTo a w') : InLine w' := by
  obtain ⟨exchanges, runs⟩ := World.runs_run {} (w.perform a)
  have effect := Dialogue.always_iff.mp (perform_effect w a) _ _ runs
  rw [← Dialogue.always_iff.mp leads _ _ runs]
  exact inLine.change effect.change

theorem leadsTo_setAccepted (w : Wizard) (total : UInt64) :
    w.LeadsTo (.setAccepted total) (w.changed (Fleet.withAccepted total) true) := by
  simp [LeadsTo, perform, setAccepted, updateFleet, Dialogue.always_bind, changed,
    Fleet.withAccepted]

theorem leadsTo_setDevices (w : Wizard) (devices : DevicesById) :
    w.LeadsTo (.setDevices devices) (w.changed (Fleet.withDevices devices) true) := by
  simp [LeadsTo, perform, setDevices, updateFleet, Dialogue.always_bind, changed,
    Fleet.withDevices]

theorem leadsTo_setGroups (w : Wizard) (groups : List GroupInfo) :
    w.LeadsTo (.setGroups groups) (w.changed (Fleet.withGroups groups) true) := by
  simp [LeadsTo, perform, setGroups, updateFleet, Dialogue.always_bind, changed,
    Fleet.withGroups]

theorem leadsTo_completeCount (inLine : InLine w) {ticket : Ticket}
    (pending : w.pending = some ticket) (total : UInt64) :
    w.LeadsTo (.completeCount ticket (.ok total))
      (w.changed (Fleet.withCount ticket.group total) false) := by
  have current := (inLine.isCurrent_iff ticket).mpr pending
  refine Dialogue.always_bind.mpr (completeCount_always ?_ ?_)
  · rintro total _ ⟨⟩
    rfl
  · rw [current]
    simp

/-- Changes that commute on the fleet commute on the wizard, if one of them spares the groups. -/
theorem commute_of_changed {waits : Bool} (inLine : InLine w) (spares : Fleet.SparesGroups change)
    (leads : ∀ w : Wizard, w.LeadsTo a (w.changed change true))
    (first : w.LeadsTo b (w.changed other waits))
    (second : (w.changed change true).LeadsTo b ((w.changed change true).changed other waits))
    (comm : change (other w.fleet) = other (change w.fleet)) : w.Commute a b := by
  refine ⟨_, (leads w).then second, ?_⟩
  rw [← changed_comm inLine (first.inLine inLine) spares comm]
  exact first.then (leads _)

/-- What spares the groups may come before or after the count that is waited for. -/
theorem commute_completeCount (inLine : InLine w) (spares : Fleet.SparesGroups change)
    (leads : ∀ w : Wizard, w.LeadsTo a (w.changed change true)) {ticket : Ticket}
    (pending : w.pending = some ticket) (total : UInt64)
    (comm : change (w.fleet.withCount ticket.group total) =
      (change w.fleet).withCount ticket.group total) :
    w.Commute a (.completeCount ticket (.ok total)) := by
  have waiting : (w.changed change true).pending = some ticket := by
    rw [changed_eq_of_spares inLine spares]
    exact pending
  exact commute_of_changed inLine spares leads (leadsTo_completeCount inLine pending total)
    (leadsTo_completeCount ((leads w).inLine inLine) waiting total) comm

/-- In every history, totals, devices and groups lead to the same wizard in either order, and so do
the count that is waited for and totals or devices. -/
theorem fleet_arrives_in_any_order (reachable : Reachable w) :
    (∀ total devices, w.Commute (.setAccepted total) (.setDevices devices)) ∧
    (∀ total groups, w.Commute (.setAccepted total) (.setGroups groups)) ∧
    (∀ devices groups, w.Commute (.setDevices devices) (.setGroups groups)) ∧
    ∀ ticket, w.pending = some ticket → ∀ count,
      (∀ total, w.Commute (.setAccepted total) (.completeCount ticket (.ok count))) ∧
      ∀ devices, w.Commute (.setDevices devices) (.completeCount ticket (.ok count)) := by
  have inLine := reachable.inLine
  have accepted := Fleet.sparesGroups_withAccepted
  have devices := Fleet.sparesGroups_withDevices
  refine ⟨fun total given => ?_, fun total groups => ?_, fun given groups => ?_,
    fun ticket pending count => ⟨fun total => ?_, fun given => ?_⟩⟩
  · exact commute_of_changed inLine (accepted total) (leadsTo_setAccepted · total)
      (leadsTo_setDevices _ given) (leadsTo_setDevices _ given) rfl
  · exact commute_of_changed inLine (accepted total) (leadsTo_setAccepted · total)
      (leadsTo_setGroups _ groups) (leadsTo_setGroups _ groups) rfl
  · exact commute_of_changed inLine (devices given) (leadsTo_setDevices · given)
      (leadsTo_setGroups _ groups) (leadsTo_setGroups _ groups) rfl
  · exact commute_completeCount inLine (accepted total) (leadsTo_setAccepted · total) pending count
      rfl
  · exact commute_completeCount inLine (devices given) (leadsTo_setDevices · given) pending count
      rfl

@[irreducible] def waiting : Wizard :=
  World.play { api := { groups := ["east", "west"] } } (new {})
    [.open, .selectTarget (.group "east")]

/-- The group may go missing, or its count come in, before or after the total. -/
theorem fleet_arrives_in_any_order_waiting :
    Reachable waiting ∧ waiting.pending = some ⟨"east", 1⟩ ∧
      waiting.Commute (.setAccepted 9) (.setGroups [⟨"west", none⟩]) ∧
      waiting.Commute (.setAccepted 9) (.completeCount ⟨"east", 1⟩ (.ok 5)) := by
  have reachable : Reachable waiting := by
    unfold waiting
    exact World.reachable_play _ _ _
  have pending : waiting.pending = some ⟨"east", 1⟩ := by decide +kernel
  obtain ⟨_, groups, _, count⟩ := fleet_arrives_in_any_order reachable
  exact ⟨reachable, pending, groups 9 _, (count _ pending 5).1 9⟩

end Wizard
end FleetRollout
