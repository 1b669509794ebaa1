import FleetRollout.Proofs.Rollout.Pattern
import Mathlib.Data.List.Infix

/-! The patterns that phases are written as. Phases have a pattern if and only if they are without
starts, of a size each that is a percentage, and of no delay longer than a year; and then they are
read back from the one that is written for them. -/
namespace FleetRollout.Rollout
open Text

variable {isLast : Bool} {cs item : List Char}

def sizeText : Option UInt32 → List Char
  | none => ['*']
  | some size => digits size.toNat

def delayText (delay : Delay) : List Char := digits delay.amount.toNat ++ [delay.unit.letter]

def itemText (phase : Phase) : List Char :=
  sizeText phase.batchSize ++ (phase.delay.elim [] fun delay => ':' :: delayText delay)

def patternText (phases : List Phase) : String :=
  String.ofList ([','].intercalate (phases.map itemText))

/-- Phases that a pattern can say: without starts, all but the last of a size, and no delay longer
than a year. -/
structure Expressible (phases : List Phase) : Prop where
  nonempty : phases ≠ []
  unscheduled : ∀ phase ∈ phases, phase.start = none
  sized : ∀ phase ∈ phases.dropLast, phase.batchSize ≠ none
  percents : ∀ phase ∈ phases, ∀ size ∈ phase.batchSize, 1 ≤ size ∧ size ≤ 100
  delays : ∀ phase ∈ phases, ∀ delay ∈ phase.delay, delay.inMinutes ≤ longestDelayDays * 1440

def IsItemChar (c : Char) : Prop := c ≠ ',' ∧ isBlank c = false

theorem isItemChar_of_isDigit {c : Char} (digit : c.isDigit = true) : IsItemChar c := by
  refine ⟨?_, isBlank_of_isDigit digit⟩
  rintro rfl
  contradiction

theorem isItemChar_of_mem_sizeText {c : Char} {size : Option UInt32} (found : c ∈ sizeText size) :
    IsItemChar c := by
  cases size with
  | none =>
    obtain rfl := List.mem_singleton.mp found
    exact ⟨by decide, rfl⟩
  | some size => exact isItemChar_of_isDigit (isDigit_of_mem_digits found)

theorem isItemChar_of_mem_delayText {c : Char} {delay : Delay} (found : c ∈ delayText delay) :
    IsItemChar c := by
  obtain amount | unit := List.mem_append.mp found
  · exact isItemChar_of_isDigit (isDigit_of_mem_digits amount)
  · obtain rfl := List.mem_singleton.mp unit
    cases delay.unit <;> exact ⟨by decide, rfl⟩

theorem isItemChar_of_mem_itemText {c : Char} {phase : Phase} (found : c ∈ itemText phase) :
    IsItemChar c := by
  obtain size | waits := List.mem_append.mp found
  · exact isItemChar_of_mem_sizeText size
  · cases delayed : phase.delay with
    | none =>
      rw [delayed] at waits
      contradiction
    | some delay =>
      rw [delayed] at waits
      obtain rfl | waits := List.mem_cons.mp waits
      · exact ⟨by decide, rfl⟩
      · exact isItemChar_of_mem_delayText waits

theorem itemText_ne_nil (phase : Phase) : itemText phase ≠ [] := by
  have sized : sizeText phase.batchSize ≠ [] := by
    cases phase.batchSize with
    | none => exact List.cons_ne_nil _ _
    | some size => exact digits_ne_nil _
  exact List.append_ne_nil_of_left_ne_nil sized _

theorem spellsNumber_digits (n : UInt32) : SpellsNumber (digits n.toNat) n :=
  .digits (digits_ne_nil _) (fun _ => isDigit_of_mem_digits) (digitsValue_digits _)

theorem spellsDelay_delayText {delay : Delay}
    (short : delay.inMinutes ≤ longestDelayDays * 1440) : SpellsDelay (delayText delay) delay := by
  have solid : trim (delayText delay) = delayText delay :=
    trim_of_solid fun _ found => (isItemChar_of_mem_delayText found).2
  exact ⟨digits delay.amount.toNat, solid, spellsNumber_digits delay.amount, short⟩

theorem spellsItem_itemText {phase : Phase} (unscheduled : phase.start = none)
    (sized : SpellsSize isLast (sizeText phase.batchSize) phase.batchSize)
    (short : ∀ delay ∈ phase.delay, delay.inMinutes ≤ longestDelayDays * 1440) :
    SpellsItem isLast (itemText phase) phase := by
  obtain ⟨size, start, delay⟩ := phase
  obtain rfl : start = none := unscheduled
  cases delay with
  | none =>
    rw [itemText, Option.elim_none, List.append_nil]
    exact .sized sized
  | some delay => exact .delayed sized (spellsDelay_delayText (short delay rfl))

theorem spellsSize_sizeText {size : Option UInt32} (last : size = none → isLast = true)
    (percents : ∀ percent ∈ size, 1 ≤ percent ∧ percent ≤ 100) :
    SpellsSize isLast (sizeText size) size := by
  cases size with
  | none => exact .rest (last rfl)
  | some percent =>
    obtain ⟨positive, le⟩ := percents percent rfl
    exact .percent (spellsNumber_digits percent) positive le

theorem Expressible.spellsItems {phases : List Phase} (expressible : Expressible phases) :
    SpellsItems (phases.map itemText) phases := by
  obtain ⟨nonempty, unscheduled, sized, percents, delays⟩ := expressible
  induction phases with
  | nil => contradiction
  | cons phase rest ih =>
    obtain ⟨start, unscheduled⟩ := List.forall_mem_cons.mp unscheduled
    obtain ⟨percent, percents⟩ := List.forall_mem_cons.mp percents
    obtain ⟨short, delays⟩ := List.forall_mem_cons.mp delays
    cases rest with
    | nil => exact .last (spellsItem_itemText start (spellsSize_sizeText (fun _ => rfl) percent) short)
    | cons next rest =>
      obtain ⟨given, sized⟩ := List.forall_mem_cons.mp sized
      refine .cons (spellsItem_itemText start (spellsSize_sizeText ?_ percent) short)
        (ih (List.cons_ne_nil next rest) unscheduled sized percents delays)
      intro none
      contradiction

theorem trim_itemText (phase : Phase) : trim (itemText phase) = itemText phase :=
  trim_of_solid fun _ found => (isItemChar_of_mem_itemText found).2

theorem Expressible.spellsPattern {phases : List Phase} (expressible : Expressible phases) :
    SpellsPattern (patternText phases).toList phases := by
  refine ⟨phases.map itemText, String.toList_ofList, ?_, ?_⟩
  · intro part found comma
    obtain ⟨phase, _, rfl⟩ := List.mem_map.mp found
    exact (isItemChar_of_mem_itemText comma).1 rfl
  · have trimmed : (phases.map itemText).map trim = phases.map itemText := by
      rw [List.map_map]
      exact List.map_congr_left fun phase _ => trim_itemText phase
    have kept : (phases.map itemText).filter (!·.isEmpty) = phases.map itemText := by
      refine List.filter_eq_self.mpr fun item found => ?_
      obtain ⟨phase, _, rfl⟩ := List.mem_map.mp found
      simpa using itemText_ne_nil phase
    rw [trimmed, kept]
    exact expressible.spellsItems

theorem SpellsSize.percent_bounds {size : Option UInt32} (spells : SpellsSize isLast cs size) :
    ∀ percent ∈ size, 1 ≤ percent ∧ percent ≤ 100 := by
  rintro percent rfl
  obtain _ | ⟨_, positive, le⟩ := spells
  exact ⟨positive, le⟩

theorem SpellsSize.given {size : Option UInt32} (spells : SpellsSize false cs size) :
    size ≠ none := by
  rintro rfl
  nomatch spells

/-- What an item says of a phase. -/
theorem SpellsItem.phase {phase : Phase} (spells : SpellsItem isLast item phase) :
    phase.start = none ∧ (∃ cs, SpellsSize isLast cs phase.batchSize) ∧
      ∀ delay ∈ phase.delay, delay.inMinutes ≤ longestDelayDays * 1440 := by
  cases spells with
  | sized sized => exact ⟨rfl, ⟨_, sized⟩, nofun⟩
  | delayed sized waits =>
    refine ⟨rfl, ⟨_, sized⟩, ?_⟩
    rintro _ ⟨⟩
    obtain ⟨_, _, _, short⟩ := waits
    exact short

theorem SpellsItems.expressible {items : List (List Char)} {phases : List Phase}
    (spells : SpellsItems items phases) : Expressible phases := by
  induction spells with
  | last spells =>
    obtain ⟨start, ⟨_, sized⟩, short⟩ := spells.phase
    constructor
    · exact List.cons_ne_nil _ _
    · exact List.forall_mem_singleton.mpr start
    · exact List.forall_mem_nil _
    · exact List.forall_mem_singleton.mpr sized.percent_bounds
    · exact List.forall_mem_singleton.mpr short
  | cons spells rest ih =>
    obtain ⟨start, ⟨_, sized⟩, short⟩ := spells.phase
    constructor
    · exact List.cons_ne_nil _ _
    · exact List.forall_mem_cons.mpr ⟨start, ih.unscheduled⟩
    · rw [List.dropLast_cons_of_ne_nil ih.nonempty]
      exact List.forall_mem_cons.mpr ⟨sized.given, ih.sized⟩
    · exact List.forall_mem_cons.mpr ⟨sized.percent_bounds, ih.percents⟩
    · exact List.forall_mem_cons.mpr ⟨short, ih.delays⟩

/-- Phases have a pattern if and only if they are expressible. -/
theorem exists_pattern_iff {phases : List Phase} :
    (∃ pattern, parsePattern pattern = .ok phases) ↔ Expressible phases := by
  constructor
  · rintro ⟨pattern, reads⟩
    exact (parsePattern_of_items.mp reads).expressible
  · intro expressible
    exact ⟨_, parsePattern_eq_ok.mpr expressible.spellsPattern⟩

/-- Patterns are read exactly as they are spelled, what is no pattern is refused as invalid, and a
delay is not cut inside a character. Phases that a pattern can say are read back from theirs. -/
theorem parsePattern_exactly :
    (∀ (pattern : String) (phases : List Phase),
      parsePattern pattern = .ok phases ↔ SpellsPattern pattern.toList phases) ∧
    (∀ pattern : String, RefusesAsInvalid (parsePattern pattern)) ∧
    (∀ value : List Char, trim value ≠ [] →
      ¬ IsBoundary ((utf8 (trim value)).length - 1) (trim value) →
      parseDelay value = .error (.validation (.invalidDelay (String.ofList value)))) ∧
    (∀ phases : List Phase, Expressible phases →
      parsePattern (patternText phases) = .ok phases) := by
  refine ⟨fun _ _ => parsePattern_eq_ok, parsePattern_refuses, fun _ => parseDelay_inside, ?_⟩
  intro phases expressible
  exact parsePattern_eq_ok.mpr expressible.spellsPattern

/-- Three phases of which the last takes what is left, and a letter of two bytes after a number. -/
theorem parsePattern_exactly_rendered :
    Expressible [(Phase.ofSize 10).withDelay ⟨30, .minutes⟩, (Phase.ofSize 40).withDelay (.hours 2),
        {}] ∧
      parsePattern "10:30m,40:2h,*" = .ok [(Phase.ofSize 10).withDelay ⟨30, .minutes⟩,
        (Phase.ofSize 40).withDelay (.hours 2), {}] ∧
      ¬ IsBoundary 2 ['1', 'ä'] ∧
      parseDelay ['1', 'ä'] = .error (.validation (.invalidDelay "1ä")) := by
  obtain ⟨_, _, inside, rendered⟩ := parsePattern_exactly
  have expressible : Expressible [(Phase.ofSize 10).withDelay ⟨30, .minutes⟩,
      (Phase.ofSize 40).withDelay (.hours 2), {}] := by
    constructor
    · decide
    · decide
    · decide
    · simp [Phase.ofSize, Phase.withDelay]
    · simp [Phase.ofSize, Phase.withDelay, Delay.hours, Delay.inMinutes, DelayUnit.inMinutes,
        longestDelayDays]
  have cut : ¬ IsBoundary 2 ['1', 'ä'] := by
    rintro ⟨before, start, place⟩
    have none : ∀ before ∈ ['1', 'ä'].inits, (utf8 before).length ≠ 2 := by decide
    exact none before ((List.mem_inits _ _).mpr start) place
  exact ⟨expressible, rendered _ expressible, cut, inside ['1', 'ä'] (by decide) cut⟩

end FleetRollout.Rollout
