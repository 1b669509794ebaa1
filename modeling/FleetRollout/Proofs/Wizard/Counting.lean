import FleetRollout.Proofs.Wizard.Consistency
import FleetRollout.Proofs.Wizard.Resting

/-! Where the counts that are kept come from. The count of a group was put there by the last answer
that was applied for the group, and since then the wizard was not opened and the group never went
missing. A count makes way for another one only while another group is selected. -/
namespace FleetRollout.Wizard
variable {w w' : Wizard} {turns : List Turn} {group : String} {n : UInt64}

def pageCount? : AnsweredCall → Option (String × UInt64)
  | ⟨.groupDevices group _, .ok (page : GroupPage)⟩ => some (group, page.total)
  | _ => none

def Turn.counted? (turn : Turn) : Option (String × UInt64) :=
  match turn.move with
  | .perform operation exchanges (.applied true) =>
    match operation with
    | .completeCount ticket (.ok total) => some (ticket.group, total)
    | .refreshCount => (answeredCalls exchanges).findSome? pageCount?
    | _ => none
  | _ => none

def Turn.groupsSet? (turn : Turn) : Option (List GroupInfo) :=
  match turn.move with
  | .perform (.setGroups groups) _ (.ticket _) => some groups
  | _ => none

/-- If a turn sets the groups, the group is one of them. -/
def Turn.Lists (turn : Turn) (group : String) : Prop :=
  ∀ groups, turn.groupsSet? = some groups → group ∈ groups.map GroupInfo.name

/-- A turn tells nothing new of a group's count, and no reason to forget it. -/
structure Turn.Keeps (turn : Turn) (group : String) : Prop where
  uncounted : ∀ total, turn.counted? ≠ some (group, total)
  unopened : turn.opens = false
  lists : turn.Lists group

theorem completeCount_ensures (w : Wizard) (ticket : Ticket) (result : Except DeployError UInt64) :
    (w.completeCount ticket result).Ensures fun exchanges r => answeredCalls exchanges = [] ∧
      (r.1 = true → ∃ total, w.isCurrent ticket = true ∧ result = .ok total ∧
        r.2 = (w.withCount ticket.group total).settled) := by
  unfold completeCount
  split
  · rename_i current
    cases result with
    | ok total =>
      refine Dialogue.ensures_bind.mpr ((settle_ensures _).imp ?_)
      rintro exchanges _ ⟨silent, rfl⟩
      exact ⟨by simpa using silent, fun _ => ⟨total, current, rfl, rfl⟩⟩
    | error e => exact fun _ => ⟨rfl, nofun⟩
  · exact fun _ => ⟨rfl, nofun⟩

/-- The API told the total that is waited for, and it was applied. -/
def Fetches (w : Wizard) (exchanges : List (Dialogue.Exchange interface)) (w' : Wizard) : Prop :=
  ∃ (ticket : Ticket) (page : GroupPage), w.isCurrent ticket = true ∧
    answeredCalls exchanges = [⟨.groupDevices ticket.group 1, .ok page⟩] ∧
    w' = (w.withCount ticket.group page.total).settled

theorem refreshCount_ensures (w : Wizard) :
    w.refreshCount.Ensures fun exchanges r => r.1 = true → w.Fetches exchanges r.2 := by
  unfold refreshCount
  split
  · exact nofun
  · rename_i ticket pending
    refine Dialogue.ensures_bind.mpr fun answer => ?_
    refine (completeCount_ensures w ticket _).imp ?_
    rintro exchanges r ⟨silent, taken⟩ applied
    obtain ⟨total, current, arrived, settles⟩ := taken applied
    cases answer with
    | error e => contradiction
    | ok page =>
      obtain rfl := Except.ok.inj arrived
      refine ⟨ticket, page, current, ?_, settles⟩
      have one : answeredCalls (⟨.call (.groupDevices ticket.group 1), .ok page⟩ :: exchanges) =
          ⟨.groupDevices ticket.group 1, .ok page⟩ :: answeredCalls exchanges := rfl
      rw [silent] at one
      exact one

theorem Step.refreshed {exchanges : List (Dialogue.Exchange interface)}
    (step : Step w (.perform .refreshCount exchanges (.applied true)) w') :
    w.Fetches exchanges w' := by
  cases step with
  | perform runs =>
    have taken : (w.perform .refreshCount).Ensures fun exchanges r => r.1 = .applied true →
        w.Fetches exchanges r.2 := by
      refine Dialogue.ensures_bind.mpr ((refreshCount_ensures w).imp ?_)
      rintro exchanges ⟨applied, w'⟩ taken same
      obtain rfl : applied = true := Reply.applied.inj same
      simpa using taken rfl
    exact Dialogue.ensures_iff.mp taken _ _ runs rfl

/-- A group is known by name exactly if it is one of those that were set. -/
theorem contains_byName {groups : List GroupInfo} :
    (GroupInfo.byName groups).contains group = true ↔ group ∈ groups.map GroupInfo.name := by
  have found : (GroupInfo.byName groups).get? group =
      groups.reverse.find? fun info => info.name = group := by
    rw [GroupInfo.byName, Dict.get?_ofList, ← List.map_reverse, Dict.lookup_map, Option.map_id']
  rw [Dict.contains, found]
  simp

/-- After a write the count of a group is the one that was written or, of another group, the one
from before. -/
theorem count_of_withCount {ticket : Ticket} {total : UInt64}
    (held : (w.withCount ticket.group total).fleet.counts.get? group = some n) :
    (ticket.group, total) = (group, n) ∨
      ticket.group ≠ group ∧ w.fleet.counts.get? group = some n := by
  by_cases same : ticket.group = group
  · have written : (w.withCount ticket.group total).fleet.counts.get? ticket.group = some total :=
      GroupCounts.get?_insert_self _ _ _
    rw [same] at written held
    rw [written] at held
    exact .inl (by rw [same, Option.some.inj held])
  · exact .inr ⟨same, GroupCounts.get?_of_get?_insert held same⟩

/-- A count was there before, or is the one that the turn applied. -/
theorem Step.count {move : Move} (step : Step w move w')
    (held : w'.fleet.counts.get? group = some n) :
    (Turn.mk w move w').counted? = some (group, n) ∨
      w.fleet.counts.get? group = some n ∧ (Turn.mk w move w').Keeps group := by
  cases step with
  | guard use => exact .inr ⟨held, nofun, rfl, nofun⟩
  | @perform operation exchanges reply _ runs =>
    have step := Step.perform runs
    have effect : Effect w operation reply w' := step.effect
    cases effect with
    | opened =>
      rw [settled_fleet] at held
      contradiction
    | @groups groups _ settles =>
      rw [settles, settled_fleet, GroupCounts.get?_retain] at held
      split at held
      · rename_i known
        refine .inr ⟨held, nofun, rfl, ?_⟩
        rintro _ ⟨⟩
        exact contains_byName.mp known
      · contradiction
    | @counted ticket total current =>
      rw [settled_fleet] at held
      obtain written | ⟨other, before⟩ := count_of_withCount held
      · exact .inl (congrArg some written)
      · refine .inr ⟨before, ?_, rfl, nofun⟩
        rintro _ ⟨⟩
        exact other rfl
    | refreshed =>
      obtain ⟨ticket, page, current, asked, same⟩ := step.refreshed
      have counted (after : Wizard) :
          (Turn.mk w (.perform .refreshCount exchanges (.applied true)) after).counted? =
            some (ticket.group, page.total) := by
        simp only [Turn.counted?, asked]
        rfl
      rw [same, settled_fleet] at held
      rw [counted]
      obtain written | ⟨other, before⟩ := count_of_withCount held
      · exact .inl (congrArg some written)
      · refine .inr ⟨before, ?_, rfl, nofun⟩
        rw [counted]
        rintro _ ⟨⟩
        exact other rfl
    | refused => cases operation <;> exact .inr ⟨held, nofun, rfl, nofun⟩
    | @unsent _ _ outcome => cases outcome <;> exact .inr ⟨held, nofun, rfl, nofun⟩
    | chosen editable plain =>
      cases operation <;> first | exact .inr ⟨held, nofun, rfl, nofun⟩ | contradiction
    | targeted editable available settles =>
      rw [settles, settled_fleet] at held
      exact .inr ⟨held, nofun, rfl, nofun⟩
    | accepted settles | devices settles =>
      rw [settles, settled_fleet] at held
      exact .inr ⟨held, nofun, rfl, nofun⟩
    | loaded =>
      rw [settled_fleet] at held
      exact .inr ⟨held, nofun, rfl, nofun⟩
    | sent answer => cases answer <;> exact .inr ⟨held, nofun, rfl, nofun⟩
    | _ => exact .inr ⟨held, nofun, rfl, nofun⟩

/-- A count is written only where one is waited for, so that the count of the selected group never
makes way for another one. -/
theorem Step.count_selected {move : Move} (inLine : InLine w) (step : Step w move w')
    (held : w.fleet.counts.get? group = some n) (selected : w.selection.target = .group group)
    (still : w'.selection.target = .group group) (lists : (Turn.mk w move w').Lists group) :
    w'.fleet.counts.get? group = some n := by
  have idle {ticket : Ticket} : w.isCurrent ticket = false := by
    cases current : w.isCurrent ticket with
    | false => rfl
    | true =>
      obtain ⟨pending, target⟩ := isCurrent_eq_true.mp current
      obtain rfl := Target.group.inj (selected.symm.trans target)
      rw [(inLine.target_of_pending pending).2.2] at held
      contradiction
  cases step with
  | guard use => exact held
  | @perform operation exchanges reply _ runs =>
    have effect : Effect w operation reply w' := Step.effect (.perform runs)
    cases effect with
    | opened => simp [restarted] at still
    | closed => contradiction
    | @groups groups _ settles =>
      have known := contains_byName.mpr (lists groups rfl)
      rw [settles, settled_fleet, GroupCounts.get?_retain, if_pos known]
      exact held
    | counted current | refreshed current =>
      rw [idle] at current
      contradiction
    | targeted editable available settles | accepted settles | devices settles =>
      rw [settles, settled_fleet]
      exact held
    | loaded =>
      rw [settled_fleet]
      exact held
    | sent answer => cases answer <;> exact held
    | _ => exact held

/-- A count was there at the start and kept by every turn, or some turn applied it and every later
one kept it. -/
theorem History.count {start : Wizard} (history : History start turns w)
    (held : w.fleet.counts.get? group = some n) :
    (start.fleet.counts.get? group = some n ∧ ∀ turn ∈ turns, turn.Keeps group) ∨
    ∃ earlier turn later, turns = earlier ++ turn :: later ∧ turn.counted? = some (group, n) ∧
      ∀ t ∈ later, t.Keeps group := by
  induction history with
  | start => exact .inl ⟨held, by simp⟩
  | @next turns w w' move _ step ih =>
    obtain counted | ⟨before, keeps⟩ := step.count held
    · exact .inr ⟨turns, ⟨w, move, w'⟩, [], rfl, counted, by simp⟩
    · obtain ⟨first, kept⟩ | ⟨earlier, turn, later, rfl, counted, kept⟩ := ih before
      · refine .inl ⟨first, ?_⟩
        simpa [or_imp, forall_and] using ⟨kept, keeps⟩
      · refine .inr ⟨earlier, turn, later ++ [⟨w, move, w'⟩], by simp, counted, ?_⟩
        simpa [or_imp, forall_and] using ⟨kept, keeps⟩

theorem History.count_selected {later : List Turn} (inLine : InLine w)
    (history : History w later w') (selected : w.selection.target = .group group)
    (held : w.fleet.counts.get? group = some n)
    (still : ∀ turn ∈ later, turn.after.selection.target = .group group ∧ turn.Lists group) :
    w'.selection.target = .group group ∧ w'.fleet.counts.get? group = some n := by
  induction history with
  | start => exact ⟨selected, held⟩
  | @next later v v' move before step ih =>
    obtain ⟨target, kept⟩ := ih fun turn earlier => still turn (List.mem_append_left _ earlier)
    obtain ⟨target', lists⟩ := still ⟨v, move, v'⟩ (List.mem_append_right _ List.mem_cons_self)
    have inLine' : InLine v := before.invariant InLine.change inLine
    exact ⟨target', step.count_selected inLine' kept target target' lists⟩

/-- A count that is kept is that of a known group, and the one that was applied for it last; since
then the wizard was not opened, and the group was among the groups whenever these were set. The
count of the group that is selected never makes way while the group stays selected and known. -/
theorem counts_are_current {options : Options} (history : History (new options) turns w) :
    (∀ group n, w.fleet.counts.get? group = some n →
      w.fleet.groups.contains group = true ∧
      ∃ earlier turn later, turns = earlier ++ turn :: later ∧
        turn.counted? = some (group, n) ∧ ∀ t ∈ later, t.Keeps group) ∧
    ∀ group n, w.selection.target = .group group → w.fleet.counts.get? group = some n →
      ∀ later w', History w later w' →
        (∀ turn ∈ later, turn.after.selection.target = .group group ∧ turn.Lists group) →
        w'.fleet.counts.get? group = some n := by
  have inLine : InLine w := Reachable.inLine ⟨options, turns, history⟩
  constructor
  · intro group n held
    refine ⟨inLine.known group n held, ?_⟩
    obtain ⟨first, _⟩ | origin := history.count held
    · contradiction
    · exact origin
  · intro group n selected held later w' rest still
    exact (rest.count_selected inLine selected held still).2

/-- A wizard with room for one count, asked for with none. The count of the first group made way for
that of a second one, which then went missing and came back, and was counted anew. -/
@[irreducible] def recounted : Wizard :=
  World.play
    { api := { groups := ["east", "west"], groupTotals := .ofList [("east", 4), ("west", 9)] } }
    (new { groupCountCapacity := 0 })
    [.open, .selectTarget (.group "east"), .refreshCount, .selectTarget (.group "west"),
      .refreshCount, .setGroups [⟨"east", none⟩], .setGroups [⟨"east", none⟩, ⟨"west", none⟩],
      .completeCount ⟨"west", 3⟩ (.ok 11)]

/-- The new count is kept, and stays when the groups are set again. -/
theorem counts_are_current_recounted :
    ∃ turns, History (new { groupCountCapacity := 0 }) turns recounted ∧
      recounted.fleet.counts.get? "east" = none ∧
      (∃ earlier turn later, turns = earlier ++ turn :: later ∧
        turn.counted? = some ("west", 11) ∧ ∀ t ∈ later, t.Keeps "west") ∧
      ∃ exchanges reply w',
        Step recounted (.perform (.setGroups [⟨"west", none⟩]) exchanges reply) w' ∧
        w'.fleet.counts.get? "west" = some 11 := by
  obtain ⟨turns, history⟩ :
      ∃ turns, History (new { groupCountCapacity := 0 }) turns recounted := by
    unfold recounted
    exact World.play_history _ _ _
  have held : recounted.fleet.counts.get? "west" = some 11 := by decide +kernel
  have selected : recounted.selection.target = .group "west" := by decide +kernel
  have gone : recounted.fleet.counts.get? "east" = none := by decide +kernel
  obtain ⟨origin, stays⟩ := counts_are_current history
  obtain ⟨exchanges, runs⟩ := World.runs_run {} (recounted.perform (.setGroups [⟨"west", none⟩]))
  have still :
      (World.run (recounted.perform (.setGroups [⟨"west", none⟩])) {}).1.2.selection.target =
        .group "west" := by decide +kernel
  refine ⟨turns, history, gone, (origin "west" 11 held).2, exchanges, _, _, .perform runs, ?_⟩
  refine stays "west" 11 selected held _ _ (History.next .start (.perform runs)) ?_
  intro turn last
  obtain rfl := List.mem_singleton.mp last
  refine ⟨still, ?_⟩
  intro groups set
  unfold Turn.groupsSet? at set
  split at set
  · rename_i same
    obtain ⟨⟨⟩, _, _⟩ := Move.perform.inj same
    obtain rfl := Option.some.inj set
    simp
  · contradiction

end FleetRollout.Wizard
