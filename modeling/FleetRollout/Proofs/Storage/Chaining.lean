import FleetRollout.Proofs.Rollout.Anchors
import FleetRollout.Proofs.Rollout.PatternText
import FleetRollout.Proofs.Rollout.Suitability
import FleetRollout.Proofs.Storage.Preset

/-! Phases without starts of their own, as patterns and presets give them. Each of them but the first
is counted from the one before it, so the time of asking moves all starts alike, and whether the
phases are valid does not depend on it as long as they start in range. -/
namespace FleetRollout.Rollout
variable {phases : List Phase} {devices : UInt64} {now later : Instant} {i : Nat}

/-- No phase has a start of its own. -/
def Chained (phases : List Phase) : Prop := ∀ phase ∈ phases, phase.start = none

namespace Chained

theorem ownStart? (chained : Chained phases) (k : Nat) : ownStart? phases k = none := by
  unfold Rollout.ownStart?
  cases found : phases[k]? with
  | none => rfl
  | some phase => exact chained phase (List.mem_of_getElem? found)

theorem anchor (chained : Chained phases) (i : Nat) : anchor phases i = 0 :=
  anchor_eq_zero fun k _ _ => chained.ownStart? k

theorem base (chained : Chained phases) (now : Instant) (i : Nat) : base phases now i = now := by
  rw [Rollout.base, chained.ownStart?, Option.getD_none]

theorem waited (chained : Chained phases) (i : Nat) :
    waited phases i = ((phases.take i).map wait).sum := by
  rw [Rollout.waited, chained.anchor, List.drop_zero]

/-- The last phase starts after all others, so it is the one that may start past the range. -/
theorem inRange_iff (chained : Chained phases) :
    (effectiveStarts phases now).isSome = true ↔
      phases = [] ∨ now.second + (phases.dropLast.map wait).sum ≤ Instant.greatestSecond := by
  rw [Option.isSome_iff_ne_none, ne_eq, effectiveStarts_eq_none_iff]
  simp only [chained.base, chained.waited, not_exists, not_and, Int.not_lt]
  constructor
  · intro starts
    by_cases empty : phases = []
    · exact .inl empty
    · right
      rw [List.dropLast_eq_take]
      exact starts _ (Nat.sub_one_lt (Nat.ne_of_gt (List.length_pos_iff.mpr empty)))
  · rintro (rfl | last) i inside
    · contradiction
    · have shorter : ((phases.take i).map wait).sum ≤ (phases.dropLast.map wait).sum := by
        have leading : phases.take i = phases.dropLast.take i := by
          rw [List.dropLast_eq_take, List.take_take, Nat.min_eq_left (Nat.le_sub_one_of_lt inside)]
        have parts := congrArg (fun ps => (ps.map wait).sum)
          (List.take_append_drop i phases.dropLast)
        rw [leading]
        simp only [List.map_append, List.sum_append] at parts
        omega
      omega

/-- Delays alone keep the phases apart. -/
theorem ordered_iff (chained : Chained phases)
    (inRange : (effectiveStarts phases now).isSome = true) :
    (∃ starts, effectiveStarts phases now = some starts ∧ starts.Pairwise (· < ·)) ↔
      ∀ phase ∈ phases.dropLast, Delays phase := by
  obtain ⟨starts, told⟩ := Option.isSome_iff_exists.mp inRange
  rw [← increasing_startsFrom_iff chained told, increasing_iff_pairwise]
  constructor
  · rintro ⟨others, again, ordered⟩
    obtain rfl := Option.some.inj (told.symm.trans again)
    exact ordered
  · intro ordered
    exact ⟨starts, told, ordered⟩

theorem isValid_eq (chained : Chained phases)
    (inRange : (effectiveStarts phases now).isSome = true)
    (inRange' : (effectiveStarts phases later).isSome = true) :
    isValid phases devices later = isValid phases devices now := by
  by_cases empty : phases = []
  · subst phases
    rfl
  · apply Bool.eq_iff_iff.mpr
    rw [isValid_iff_ordered empty, isValid_iff_ordered empty, chained.ordered_iff inRange,
      chained.ordered_iff inRange']

theorem isValid_iff (chained : Chained phases) (nonempty : phases ≠ [])
    (fits : (leadingPercents phases).sum < UInt32.size)
    (inRange : (effectiveStarts phases now).isSome = true) :
    isValid phases devices now = true ↔
      (∀ phase ∈ phases.dropLast, Delays phase) ∧ (leadingPercents phases).sum < 100 ∧
        (∀ percent ∈ leadingPercents phases, 100 ≤ devices.toNat * percent) ∧
        100 ≤ devices.toNat * (100 - (leadingPercents phases).sum) := by
  rw [isValid_iff_suits nonempty fits, ← chained.ordered_iff inRange]
  constructor
  · intro suits
    exact ⟨suits.ordered, suits.under, suits.reached, suits.remainder⟩
  · rintro ⟨ordered, under, reached, remainder⟩
    exact ⟨ordered, under, reached, remainder⟩

end Chained

theorem chained_of_parsePattern {pattern : String} (reads : parsePattern pattern = .ok phases) :
    Chained phases := (exists_pattern_iff.mp ⟨pattern, reads⟩).unscheduled

theorem chained_unscheduled (phases : List Phase) : Chained (phases.map Phase.unscheduled) :=
  List.forall_mem_map.mpr fun _ _ => rfl

/-- Patterns and the presets that deployments leave behind are chained. Chained phases are valid or
not at all times alike at which the last one starts in range, and they are valid there exactly if
each phase but the last makes the next one wait, they leave something for the last one, and each of
them reaches a device. -/
theorem chained_valid_at_any_time :
    (∀ pattern phases, parsePattern pattern = .ok phases → Chained phases) ∧
    (∀ (settings : Settings) (selection : Selection) phases preset,
      selection.phases = some phases → 1 < phases.length →
      (settings.remember selection).2.previousPhases = some preset → Chained preset) ∧
    ∀ phases, Chained phases → ∀ now,
      ((effectiveStarts phases now).isSome = true ↔
        phases = [] ∨ now.second + (phases.dropLast.map wait).sum ≤ Instant.greatestSecond) ∧
      ((effectiveStarts phases now).isSome = true → ∀ devices,
        (∀ later, (effectiveStarts phases later).isSome = true →
          isValid phases devices later = isValid phases devices now) ∧
        ((leadingPercents phases).sum < UInt32.size → phases ≠ [] →
          (isValid phases devices now = true ↔
            (∀ phase ∈ phases.dropLast, Delays phase) ∧ (leadingPercents phases).sum < 100 ∧
            (∀ percent ∈ leadingPercents phases, 100 ≤ devices.toNat * percent) ∧
            100 ≤ devices.toNat * (100 - (leadingPercents phases).sum)))) := by
  refine ⟨fun _ _ => chained_of_parsePattern, ?_, ?_⟩
  · intro settings selection phases preset phased several remembered
    rw [Settings.remember_previousPhases settings phased several] at remembered
    obtain rfl := Option.some.inj remembered
    exact chained_unscheduled phases
  · intro phases chained now
    refine ⟨chained.inRange_iff, fun inRange devices => ⟨fun later inRange' => ?_, ?_⟩⟩
    · exact chained.isValid_eq inRange inRange'
    · intro fits nonempty
      exact chained.isValid_iff nonempty fits inRange

def halves : List Phase := [(Phase.ofSize 50).withDelay (.hours 1), {}]

theorem chained_valid_at_any_time_halves :
    Chained (halves.map Phase.unscheduled) ∧ isValid halves 2 .epoch = true ∧
      isValid halves 2 leap = true := by
  obtain ⟨patterns, presets, valid⟩ := chained_valid_at_any_time
  have chained : Chained halves := patterns "50:1h,*" halves (by cbv)
  have preset := presets {} { phases := some halves } halves _ rfl (by decide) rfl
  obtain ⟨inRange, still⟩ := valid halves chained .epoch
  obtain ⟨any, exactly⟩ := still (inRange.mpr (.inr (by decide))) 2
  have now : isValid halves 2 .epoch = true := by
    refine (exactly (by decide) (by decide)).mpr ⟨?_, by decide, by decide, by decide⟩
    intro phase leading
    obtain rfl := List.mem_singleton.mp leading
    exact ⟨.hours 1, rfl, by decide⟩
  exact ⟨preset, now, (any leap (by decide)).trans now⟩

end FleetRollout.Rollout
