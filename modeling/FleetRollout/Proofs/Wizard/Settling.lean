import FleetRollout.Proofs.Selection.Derivation
import FleetRollout.Wizard.Basic

/-! What bringing derived fields and ticket in line does, as three cases: nothing is waited for, the
count that is waited for is still the one to wait for, or a new ticket is issued. -/
namespace FleetRollout.Wizard

/-- The wizard with derived fields in line; the ticket is as before. -/
def resolved (w : Wizard) : Wizard :=
  { w with selection := (w.selection.resolve w.fleet).1 }

theorem settled_cases (w : Wizard) :
    (w.fleet.missing? w.selection.target = none ∧ w.settled = { w.resolved with pending := none }) ∨
    (∃ ticket, w.fleet.missing? w.selection.target = some ticket.group ∧
      w.pending = some ticket ∧ w.settled = w.resolved) ∨
    (∃ group, w.fleet.missing? w.selection.target = some group ∧
      (∀ ticket, w.pending = some ticket → ticket.group ≠ group) ∧
      w.settled =
        { w.resolved with
          pending := some ⟨group, w.issued + 1⟩
          issued := w.issued + 1 }) := by
  have resolution := w.selection.resolution_eq w.fleet
  cases missing : w.fleet.missing? w.selection.target with
  | none =>
    rw [missing] at resolution
    refine .inl ⟨rfl, ?_⟩
    simp only [settled, resolved]
    split
    · rename_i h; rw [h]
    · rename_i h; rw [h] at resolution; contradiction
  | some group =>
    rw [missing] at resolution
    have settles : w.settled =
        if w.awaits group then w.resolved
        else { w.resolved with pending := some ⟨group, w.issued + 1⟩, issued := w.issued + 1 } := by
      simp only [settled, resolved]
      split
      · rename_i h; rw [h] at resolution; contradiction
      · rename_i h
        rw [h] at resolution
        obtain rfl := Resolution.needsCount.inj resolution
        rw [h]
    cases pending : w.pending with
    | none =>
      refine .inr (.inr ⟨group, rfl, by simp, ?_⟩)
      simpa [awaits, pending] using settles
    | some ticket =>
      by_cases same : ticket.group = group
      · refine .inr (.inl ⟨ticket, by rw [same], rfl, ?_⟩)
        simpa [awaits, pending, same] using settles
      · refine .inr (.inr ⟨group, rfl, by simpa using same, ?_⟩)
        simpa [awaits, pending, same] using settles

theorem settled_of_missing_none {w : Wizard}
    (complete : w.fleet.missing? w.selection.target = none) :
    w.settled = { w.resolved with pending := none } := by
  obtain ⟨_, settles⟩ | ⟨_, missing, _⟩ | ⟨_, missing, _⟩ := settled_cases w
  · exact settles
  all_goals
    rw [complete] at missing
    contradiction

/-- Settling touches nothing but the selection and the tickets. -/
theorem settled_eq (w : Wizard) :
    ∃ pending issued, w.settled = { w.resolved with pending := pending, issued := issued } := by
  obtain ⟨_, eq⟩ | ⟨_, _, _, eq⟩ | ⟨_, _, _, eq⟩ := settled_cases w
  · exact ⟨none, w.issued, eq⟩
  · exact ⟨w.pending, w.issued, eq⟩
  · exact ⟨_, _, eq⟩

@[simp] theorem settled_selection (w : Wizard) :
    w.settled.selection = (w.selection.resolve w.fleet).1 := by
  obtain ⟨_, _, eq⟩ := settled_eq w
  rw [eq]
  rfl

theorem settled_target (w : Wizard) : w.settled.selection.target = w.selection.target := by simp

@[simp] theorem settled_fleet (w : Wizard) : w.settled.fleet = w.fleet := by
  obtain ⟨_, _, eq⟩ := settled_eq w
  rw [eq]
  rfl

@[simp] theorem settled_options (w : Wizard) : w.settled.options = w.options := by
  obtain ⟨_, _, eq⟩ := settled_eq w
  rw [eq]
  rfl

@[simp] theorem settled_hasDelta (w : Wizard) : w.settled.hasDelta = w.hasDelta := by
  obtain ⟨_, _, eq⟩ := settled_eq w
  rw [eq]
  rfl

@[simp] theorem settled_lifecycle (w : Wizard) : w.settled.lifecycle = w.lifecycle := by
  obtain ⟨_, _, eq⟩ := settled_eq w
  rw [eq]
  rfl

@[simp] theorem settled_guard (w : Wizard) : w.settled.guard = w.guard := by
  obtain ⟨_, _, eq⟩ := settled_eq w
  rw [eq]
  rfl

/-- The ticket after settling stands for the count that target and fleet lack. -/
theorem settled_pending_group (w : Wizard) :
    w.settled.pending.map Ticket.group = w.fleet.missing? w.selection.target := by
  obtain ⟨missing, eq⟩ | ⟨ticket, missing, pending, eq⟩ | ⟨group, missing, _, eq⟩ := settled_cases w
  · simp [eq, missing]
  · simp [eq, missing, resolved, pending]
  · simp [eq, missing]

/-- Settling keeps the ticket, drops it, or issues the next one. -/
theorem settled_ticket (w : Wizard) :
    (w.settled.pending = w.pending ∨ w.settled.pending = none) ∧ w.settled.issued = w.issued ∨
    ∃ group, w.settled.pending = some ⟨group, w.issued + 1⟩ ∧ w.settled.issued = w.issued + 1 := by
  obtain ⟨_, eq⟩ | ⟨_, _, _, eq⟩ | ⟨group, _, _, eq⟩ := settled_cases w <;> rw [eq]
  · exact .inl ⟨.inr rfl, rfl⟩
  · exact .inl ⟨.inl rfl, rfl⟩
  · exact .inr ⟨group, rfl, rfl⟩

end FleetRollout.Wizard
