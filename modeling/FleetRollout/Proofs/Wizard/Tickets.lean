import FleetRollout.Proofs.Wizard.Consistency

/-! Tickets of group counts over whole histories: they are numbered in the order of their issue, a
count is applied only for the ticket that is waited for, and a ticket that is not waited for any
more never is again. -/
namespace FleetRollout.Wizard

/-- The ticket that a turn issues: one that is waited for after it and was not before. -/
def Turn.issued (turn : Turn) : List Ticket :=
  if turn.after.pending = turn.before.pending then [] else turn.after.pending.toList

def Turn.applied (turn : Turn) : List Ticket :=
  match turn.move with
  | .perform (.completeCount ticket _) _ (.applied true) => [ticket]
  | .perform .refreshCount _ (.applied true) => turn.before.pending.toList
  | _ => []

def issuedTickets (turns : List Turn) : List Ticket := turns.flatMap Turn.issued

def appliedTickets (turns : List Turn) : List Ticket := turns.flatMap Turn.applied

@[simp] theorem issuedTickets_append (turns later : List Turn) :
    issuedTickets (turns ++ later) = issuedTickets turns ++ issuedTickets later :=
  List.flatMap_append

@[simp] theorem appliedTickets_append (turns later : List Turn) :
    appliedTickets (turns ++ later) = appliedTickets turns ++ appliedTickets later :=
  List.flatMap_append

@[simp] theorem issuedTickets_singleton (turn : Turn) : issuedTickets [turn] = turn.issued := by
  simp [issuedTickets]

@[simp] theorem appliedTickets_singleton (turn : Turn) : appliedTickets [turn] = turn.applied := by
  simp [appliedTickets]

variable {w w' : Wizard}

/-- In a reachable wizard the pending ticket is always for the group that is selected. -/
theorem InLine.isCurrent_iff (inLine : InLine w) (ticket : Ticket) :
    w.isCurrent ticket = true ↔ w.pending = some ticket := by
  rw [isCurrent_eq_true]
  constructor
  · exact And.left
  · intro pending
    exact ⟨pending, (inLine.target_of_pending pending).1⟩

theorem settled_withCount {ticket : Ticket} (current : w.isCurrent ticket = true) (total : UInt64) :
    (w.withCount ticket.group total).settled =
      { (w.withCount ticket.group total).resolved with pending := none } := by
  obtain ⟨_, target⟩ := isCurrent_eq_true.mp current
  refine settled_of_missing_none ?_
  simp [withCount, target, Fleet.missing?, GroupCounts.get?_insert_self]

theorem InLine.withCount_settled (inLine : InLine w) {ticket : Ticket}
    (current : w.isCurrent ticket = true) (total : UInt64) :
    let w' := (w.withCount ticket.group total).settled
    w'.selection.resolvedDeviceCount = total ∧ w'.pending = none ∧
      w'.fleet.counts.get? ticket.group = some total := by
  have pending := (inLine.isCurrent_iff ticket).mp current
  obtain ⟨target, known, _⟩ := inLine.target_of_pending pending
  have counted : (w.withCount ticket.group total).fleet.counts.get? ticket.group = some total :=
    GroupCounts.get?_insert_self _ _ _
  have still :
      (w.withCount ticket.group total).fleet.count? (.group ticket.group) = some total := by
    rw [Fleet.count?, if_pos (by exact known), counted]
  have inLine' : InLine (w.withCount ticket.group total).settled :=
    inLine.change (.counted ticket total current)
  refine ⟨inLine'.count total ?_, ?_, ?_⟩
  · rw [settled_selection, Selection.resolve_target, settled_fleet]
    exact target ▸ still
  · rw [settled_withCount current]
  · rw [settled_fleet]
    exact counted

/-- A change keeps the pending ticket, drops it, or issues the next one. -/
theorem Change.ticket (change : Change w w') :
    (w'.pending = w.pending ∨ w'.pending = none) ∧ w'.issued = w.issued ∨
    ∃ group, w'.pending = some ⟨group, w.issued + 1⟩ ∧ w'.issued = w.issued + 1 := by
  cases change with
  | unchanged => exact .inl ⟨.inl rfl, rfl⟩
  | edited selection => exact .inl ⟨.inl rfl, rfl⟩
  | targeted target => exact settled_ticket _
  | accepted total => exact settled_ticket _
  | devices known => exact settled_ticket _
  | groups known => exact settled_ticket _
  | counted ticket total current =>
    rw [settled_withCount current]
    exact .inl ⟨.inr rfl, rfl⟩
  | restarted lifecycle releases accepted groups hasDelta opening =>
    obtain ⟨none | none, issued⟩ | fresh := settled_ticket
      (w.restarted lifecycle releases accepted groups hasDelta)
    · exact .inl ⟨.inr none, issued⟩
    · exact .inl ⟨.inr none, issued⟩
    · exact .inr fresh
  | closed lifecycle closing => exact .inl ⟨.inr rfl, rfl⟩
  | processed lifecycle guard => exact .inl ⟨.inl rfl, rfl⟩

/-- Only the current ticket is ever applied. -/
theorem Step.applied {move : Move} (step : Step w move w') :
    (Turn.mk w move w').applied = [] ∨
    ∃ ticket total, (Turn.mk w move w').applied = [ticket] ∧ w.isCurrent ticket = true ∧
      w' = (w.withCount ticket.group total).settled := by
  cases step with
  | guard use => exact .inl rfl
  | @perform operation exchanges reply _ runs =>
    have effect : Effect w operation reply w' := Step.effect (.perform runs)
    cases effect with
    | counted current => exact .inr ⟨_, _, rfl, current, rfl⟩
    | @refreshed ticket total current =>
      have pending := (isCurrent_eq_true.mp current).1
      exact .inr ⟨ticket, total, by simp [Turn.applied, pending], current, rfl⟩
    -- No other operation is said to apply a count.
    | refused => cases operation <;> exact .inl rfl
    | chosen editable plain => cases operation <;> exact .inl rfl
    | _ => exact .inl rfl

/-- The books of one turn: it issues nothing, and then applies or keeps at most what was waited
for; or it issues the next ticket, which is waited for from then on, and applies nothing. -/
theorem Step.books {move : Move} (step : Step w move w')
    (old : ∀ ticket, w.pending = some ticket → ticket.number ≤ w.issued) :
    ((Turn.mk w move w').issued = [] ∧ w'.issued = w.issued ∧
      ((Turn.mk w move w').applied ++ w'.pending.toList).Sublist w.pending.toList) ∨
    ∃ group, (Turn.mk w move w').issued = [⟨group, w.issued + 1⟩] ∧ w'.issued = w.issued + 1 ∧
      (Turn.mk w move w').applied = [] ∧ w'.pending = some ⟨group, w.issued + 1⟩ := by
  obtain nothing | ⟨ticket, total, applied, current, settles⟩ := step.applied
  · obtain ⟨kept | dropped, issued⟩ | ⟨group, fresh, issued⟩ := step.change.ticket
    · refine .inl ⟨?_, issued, ?_⟩
      · simp [Turn.issued, kept]
      · simp [nothing, kept]
    · refine .inl ⟨?_, issued, ?_⟩
      · simp [Turn.issued, dropped]
      · simp [nothing, dropped]
    · -- The next number is greater than that of the ticket before.
      have changed : w'.pending ≠ w.pending := by
        intro same
        have bound := old _ (same.symm.trans fresh)
        simp only at bound
        omega
      refine .inr ⟨group, ?_, issued, nothing, fresh⟩
      rw [Turn.issued, if_neg changed, fresh]
      rfl
  · obtain ⟨pending, _⟩ := isCurrent_eq_true.mp current
    rw [settled_withCount current] at settles
    subst settles
    refine .inl ⟨?_, rfl, ?_⟩
    · simp [Turn.issued, pending]
    · simp [applied, pending]

/-- The books of a history: tickets are numbered from one on, and those that were applied, and the
one that is waited for at the end, are issued tickets, each of them once and in order. -/
structure Accounted (turns : List Turn) (w : Wizard) : Prop where
  numbers : (issuedTickets turns).map Ticket.number = List.range' 1 w.issued
  uses : (appliedTickets turns ++ w.pending.toList).Sublist (issuedTickets turns)

variable {turns : List Turn}

theorem Accounted.number_le (accounted : Accounted turns w) {ticket : Ticket}
    (issued : ticket ∈ issuedTickets turns) : ticket.number ≤ w.issued := by
  have counted : ticket.number ∈ (issuedTickets turns).map Ticket.number :=
    List.mem_map_of_mem issued
  rw [accounted.numbers, List.mem_range'_1] at counted
  omega

theorem Accounted.pending_issued (accounted : Accounted turns w) {ticket : Ticket}
    (pending : w.pending = some ticket) : ticket ∈ issuedTickets turns := by
  refine accounted.uses.subset ?_
  simp [pending]

theorem Accounted.next {move : Move} (accounted : Accounted turns w) (step : Step w move w') :
    Accounted (turns ++ [⟨w, move, w'⟩]) w' := by
  have old : ∀ ticket, w.pending = some ticket → ticket.number ≤ w.issued :=
    fun _ pending => accounted.number_le (accounted.pending_issued pending)
  obtain ⟨issued, counter, used⟩ | ⟨group, issued, counter, applied, pending⟩ := step.books old
  · constructor
    · simpa [issued, counter] using accounted.numbers
    · simp only [appliedTickets_append, issuedTickets_append, appliedTickets_singleton,
        issuedTickets_singleton, issued, List.append_nil, List.append_assoc]
      exact (used.append_left _).trans accounted.uses
  · constructor
    · simp [issued, counter, accounted.numbers, List.range'_concat, Nat.add_comm]
    · simp only [appliedTickets_append, issuedTickets_append, appliedTickets_singleton,
        issuedTickets_singleton, issued, applied, pending, List.append_nil, Option.toList_some]
      exact ((List.sublist_append_left _ _).trans accounted.uses).append (.refl _)

theorem History.accounted {options : Options} (history : History (new options) turns w) :
    Accounted turns w := by
  induction history with
  | start => exact ⟨rfl, .refl _⟩
  | next _ step ih => exact ih.next step

theorem Accounted.numbers_increase (accounted : Accounted turns w) :
    ((issuedTickets turns).map Ticket.number).Pairwise (· < ·) := by
  rw [accounted.numbers]
  exact List.pairwise_lt_range'

theorem Accounted.applied_nodup (accounted : Accounted turns w) : (appliedTickets turns).Nodup := by
  have numbered : ((issuedTickets turns).map Ticket.number).Nodup :=
    accounted.numbers_increase.imp Nat.ne_of_lt
  have distinct : (issuedTickets turns).Nodup :=
    List.Pairwise.of_map Ticket.number (fun _ _ => mt (congrArg Ticket.number)) numbered
  exact distinct.sublist ((List.sublist_append_left _ _).trans accounted.uses)

/-- A ticket that was issued and is not waited for is never waited for again, nor applied. -/
theorem History.gone_for_good {ticket : Ticket} {later : List Turn} (history : History w later w')
    (old : ticket.number ≤ w.issued) (gone : w.pending ≠ some ticket) :
    w'.pending ≠ some ticket ∧ ticket ∉ appliedTickets later ∧ ticket.number ≤ w'.issued := by
  induction history with
  | start => exact ⟨gone, by simp [appliedTickets], old⟩
  | @next later w' w'' move _ step ih =>
    obtain ⟨gone, unapplied, old⟩ := ih
    refine ⟨?_, ?_, ?_⟩
    · obtain ⟨kept | dropped, _⟩ | ⟨group, fresh, _⟩ := step.change.ticket
      · rwa [kept]
      · simp [dropped]
      · rw [fresh]
        rintro ⟨⟩
        simp only at old
        omega
    · rw [appliedTickets_append, appliedTickets_singleton, List.mem_append, not_or]
      refine ⟨unapplied, ?_⟩
      obtain nothing | ⟨other, total, applied, current, _⟩ := step.applied
      · simp [nothing]
      · rw [applied, List.mem_singleton]
        rintro rfl
        exact gone (isCurrent_eq_true.mp current).1
    · obtain ⟨_, counter⟩ | ⟨_, _, counter⟩ := step.change.ticket <;> omega

/-- In every history a count is applied exactly if it arrives, without failure, for the ticket that
is waited for; any other answer changes nothing. Tickets have increasing numbers, none is applied
twice, and none that stopped being waited for is waited for or applied later. -/
theorem counts_applied_only_while_pending {options : Options}
    (history : History (new options) turns w) :
    (∀ ticket result, (w.completeCount ticket result).Always fun (applied, w') =>
      (applied = true ↔ w.pending = some ticket ∧ ∃ total, result = .ok total) ∧
      (applied = false → w' = w) ∧
      (∀ total, applied = true → result = .ok total →
        w'.selection.resolvedDeviceCount = total ∧ w'.pending = none ∧
          w'.fleet.counts.get? ticket.group = some total)) ∧
    ((issuedTickets turns).map Ticket.number).Pairwise (· < ·) ∧
    (∀ ticket, w.pending = some ticket → ticket ∈ issuedTickets turns) ∧
    (appliedTickets turns).Sublist (issuedTickets turns) ∧
    (appliedTickets turns).Nodup ∧
    ∀ ticket ∈ issuedTickets turns, w.pending ≠ some ticket →
      ∀ later w', History w later w' →
        w'.pending ≠ some ticket ∧ ticket ∉ appliedTickets later := by
  have inLine : InLine w := Reachable.inLine ⟨options, turns, history⟩
  have accounted := history.accounted
  refine ⟨fun ticket result => ?_, accounted.numbers_increase, fun _ => accounted.pending_issued,
    (List.sublist_append_left _ _).trans accounted.uses, accounted.applied_nodup, ?_⟩
  · refine completeCount_always (fun total current arrived => ?_) (fun other => ?_)
    · have left := inLine.withCount_settled current total
      refine ⟨⟨fun _ => ⟨(inLine.isCurrent_iff ticket).mp current, total, arrived⟩, fun _ => rfl⟩,
        nofun, fun total' _ arrived' => ?_⟩
      obtain rfl := Except.ok.inj (arrived.symm.trans arrived')
      exact left
    · refine ⟨⟨nofun, ?_⟩, fun _ => rfl, nofun⟩
      rintro ⟨pending, total, rfl⟩
      obtain stale | ⟨_, failed⟩ := other
      · rw [(inLine.isCurrent_iff ticket).mpr pending] at stale
        contradiction
      · contradiction
  · intro ticket issued gone later w' rest
    obtain ⟨never, unapplied, _⟩ := rest.gone_for_good (accounted.number_le issued) gone
    exact ⟨never, unapplied⟩

/-- A wizard in which a group was picked, another one, and the first one again. -/
@[irreducible] def reselected : Wizard :=
  World.play { api := { groups := ["east", "west"] } } (new {})
    [.open, .selectTarget (.group "east"), .selectTarget (.group "west"),
      .selectTarget (.group "east")]

/-- The count of the first ticket for the group is dropped, that of the latest one is applied. -/
theorem counts_applied_only_while_pending_reselected :
    ∃ turns, History (new {}) turns reselected ∧ reselected.pending = some ⟨"east", 3⟩ ∧
      ((reselected.completeCount ⟨"east", 1⟩ (.ok 5)).Always fun r => r = (false, reselected)) ∧
      (reselected.completeCount ⟨"east", 3⟩ (.ok 5)).Always fun r =>
        r.1 = true ∧ r.2.selection.resolvedDeviceCount = 5 ∧ r.2.pending = none := by
  obtain ⟨turns, history⟩ : ∃ turns, History (new {}) turns reselected := by
    unfold reselected
    exact World.play_history _ _ _
  have pending : reselected.pending = some ⟨"east", 3⟩ := by decide +kernel
  have answers := (counts_applied_only_while_pending history).1
  refine ⟨turns, history, pending, (answers ⟨"east", 1⟩ (.ok 5)).imp ?_,
    (answers ⟨"east", 3⟩ (.ok 5)).imp ?_⟩
  · rintro ⟨applied, w'⟩ ⟨decides, unchanged, _⟩
    have dropped : applied = false := by
      rw [pending] at decides
      simpa using decides
    rw [dropped, unchanged dropped]
  · rintro ⟨applied, w'⟩ ⟨decides, _, takes⟩
    have taken : applied = true := decides.mpr ⟨pending, 5, rfl⟩
    obtain ⟨count, none, _⟩ := takes 5 taken rfl
    exact ⟨taken, count, none⟩

end FleetRollout.Wizard
