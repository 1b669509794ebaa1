import FleetRollout.Storage.Settings

/-! What a deployment leaves behind in the settings: its retries, if they are to be kept, and the
phases of a rollout in several ones. The settings count as changed exactly if one of the two is
new, so what was taken over once is not taken over again. -/
namespace FleetRollout.Settings
variable {s : Settings} {selection : Selection} {phases : List Phase}

def rememberedRetries (s : Settings) (selection : Selection) : UInt32 :=
  if selection.saveRetriesDefault && s.capabilities.canRetry then selection.retries
  else s.defaultRetries

/-- The phases that a deployment leaves behind: those of a rollout in more than one phase, without
their starts. -/
def rememberedPhases (s : Settings) (selection : Selection) : Option (List Phase) :=
  match selection.phases with
  | some phases =>
    if 1 < phases.length then some (phases.map Phase.unscheduled) else s.previousPhases
  | none => s.previousPhases

theorem rememberRetries_eq (s : Settings) (selection : Selection) :
    s.rememberRetries selection =
      (decide (s.rememberedRetries selection ≠ s.defaultRetries),
        { s with defaultRetries := s.rememberedRetries selection }) := by
  unfold rememberRetries rememberedRetries
  by_cases kept : (selection.saveRetriesDefault && s.capabilities.canRetry) = true
  · by_cases same : s.defaultRetries = selection.retries
    · simp [kept, ← same]
    · simp [kept, same, Ne.symm same]
  · simp [kept]

theorem rememberPhases_eq (s : Settings) (selection : Selection) :
    s.rememberPhases selection =
      (decide (s.rememberedPhases selection ≠ s.previousPhases),
        { s with previousPhases := s.rememberedPhases selection }) := by
  unfold rememberPhases rememberedPhases
  cases selection.phases with
  | none => simp
  | some phases =>
    by_cases several : 1 < phases.length
    · by_cases same : s.previousPhases = some (phases.map Phase.unscheduled)
      · simp [Option.filter, several, ← same]
      · simp [Option.filter, several, same, Ne.symm same]
    · simp [Option.filter, several]

def remembered (s : Settings) (selection : Selection) : Settings :=
  { s with
    defaultRetries := s.rememberedRetries selection
    previousPhases := s.rememberedPhases selection }

theorem remembered_eq_self :
    s.remembered selection = s ↔
      s.rememberedRetries selection = s.defaultRetries ∧
        s.rememberedPhases selection = s.previousPhases := by
  cases s
  simp [remembered]

/-- The settings count as changed exactly if they are others than before. -/
theorem remember_eq (s : Settings) (selection : Selection) :
    s.remember selection = (decide (s.remembered selection ≠ s), s.remembered selection) := by
  have phases : rememberedPhases { s with defaultRetries := s.rememberedRetries selection } selection
      = s.rememberedPhases selection := rfl
  have changed : decide (s.remembered selection ≠ s) =
      (decide (s.rememberedRetries selection ≠ s.defaultRetries) ||
        decide (s.rememberedPhases selection ≠ s.previousPhases)) := by
    rw [← Bool.decide_or, decide_eq_decide, ne_eq, remembered_eq_self, Decidable.not_and_iff_or_not]
  rw [remember, rememberRetries_eq, changed]
  simp only [rememberPhases_eq, phases, remembered]

theorem rememberedPhases_of_several (s : Settings) (phased : selection.phases = some phases)
    (several : 1 < phases.length) :
    s.rememberedPhases selection = some (phases.map Phase.unscheduled) := by
  simp [rememberedPhases, phased, several]

theorem rememberedPhases_cases (s : Settings) (selection : Selection) :
    (∃ phases, selection.phases = some phases ∧ 1 < phases.length ∧
      s.rememberedPhases selection = some (phases.map Phase.unscheduled)) ∨
    (∀ phases, selection.phases = some phases → phases.length ≤ 1) ∧
      s.rememberedPhases selection = s.previousPhases := by
  cases phased : selection.phases with
  | none => exact .inr ⟨nofun, by simp [rememberedPhases, phased]⟩
  | some phases =>
    by_cases several : 1 < phases.length
    · exact .inl ⟨phases, rfl, several, s.rememberedPhases_of_several phased several⟩
    · refine .inr ⟨?_, by simp [rememberedPhases, phased, several]⟩
      rintro _ ⟨⟩
      exact Nat.le_of_not_lt several

theorem rememberedRetries_remembered (s : Settings) (selection : Selection) :
    (s.remembered selection).rememberedRetries selection = s.rememberedRetries selection := by
  simp only [rememberedRetries, remembered]
  split <;> rfl

theorem rememberedPhases_remembered (s : Settings) (selection : Selection) :
    (s.remembered selection).rememberedPhases selection = s.rememberedPhases selection := by
  obtain ⟨phases, phased, several, again⟩ | ⟨_, again⟩ :=
    rememberedPhases_cases (s.remembered selection) selection
  · rw [again, s.rememberedPhases_of_several phased several]
  · exact again

theorem unscheduled_unscheduled (phases : List Phase) :
    (phases.map Phase.unscheduled).map Phase.unscheduled = phases.map Phase.unscheduled := by
  simp [Phase.unscheduled]

/-- Settings count as changed exactly if they are. Only the default retries change, where those of
the deployment are to be kept and the tenant may ask for retries, and the phases, which are those of
a rollout in several phases without their starts. A second deployment like the first one changes
nothing, nor does one in the phases that were kept. -/
theorem remember_changes_what_is_new (s : Settings) (selection : Selection) :
    ∃ changed kept, s.remember selection = (changed, kept) ∧
      (changed = true ↔ kept ≠ s) ∧
      kept =
        { s with
          defaultRetries := kept.defaultRetries
          previousPhases := kept.previousPhases } ∧
      kept.defaultRetries =
        (if selection.saveRetriesDefault = true ∧ s.capabilities.canRetry = true then
          selection.retries else s.defaultRetries) ∧
      ((∃ phases, selection.phases = some phases ∧ 2 ≤ phases.length ∧
          kept.previousPhases = some (phases.map fun phase => { phase with start := none })) ∨
        (∀ phases, selection.phases = some phases → phases.length < 2) ∧
          kept.previousPhases = s.previousPhases) ∧
      kept.remember selection = (false, kept) ∧
      ∀ phases, selection.phases = some phases → 2 ≤ phases.length →
        kept.remember { selection with phases := kept.previousPhases } = (false, kept) := by
  refine ⟨_, _, s.remember_eq selection, by simp, rfl, ?_, ?_, ?_, ?_⟩
  · simp [remembered, rememberedRetries]
  · obtain kept | ⟨single, same⟩ := s.rememberedPhases_cases selection
    · exact .inl kept
    · exact .inr ⟨fun phases phased => Nat.lt_succ_of_le (single phases phased), same⟩
  · have again : (s.remembered selection).remembered selection = s.remembered selection :=
      remembered_eq_self.mpr
        ⟨rememberedRetries_remembered s selection, rememberedPhases_remembered s selection⟩
    simp [remember_eq, again]
  · intro phases phased several
    have kept : (s.remembered selection).previousPhases = some (phases.map Phase.unscheduled) :=
      s.rememberedPhases_of_several phased several
    have again : (s.remembered selection).remembered
        { selection with phases := (s.remembered selection).previousPhases } =
          s.remembered selection := by
      refine remembered_eq_self.mpr ⟨rememberedRetries_remembered s selection, ?_⟩
      have still : 1 < (phases.map Phase.unscheduled).length := by rwa [List.length_map]
      rw [kept, rememberedPhases_of_several _ rfl still, unscheduled_unscheduled]
    simp [remember_eq, again]

end FleetRollout.Settings
