import FleetRollout.Rollout.Schedule

/-! The starts of phases: one for each phase, told from the first one on. Where no phase has a start
of its own, the delays alone decide whether the starts are in order. -/
namespace FleetRollout.Rollout
variable {phases : List Phase} {now : Instant} {starts : List Instant}

theorem increasing_iff_pairwise : increasing starts = true ↔ starts.Pairwise (· < ·) := by
  induction starts with
  | nil => simp [increasing]
  | cons a rest ih =>
    cases rest with
    | nil => simp [increasing]
    | cons b rest =>
      simp only [increasing, Bool.and_eq_true, decide_eq_true_eq, ih]
      constructor
      · rintro ⟨first, later⟩
        refine List.pairwise_cons.mpr ⟨?_, later⟩
        intro c found
        obtain rfl | found := List.mem_cons.mp found
        · exact first
        · exact Instant.lt_trans first ((List.pairwise_cons.mp later).1 c found)
      · intro ordered
        obtain ⟨first, later⟩ := List.pairwise_cons.mp ordered
        exact ⟨first b List.mem_cons_self, later⟩

/-- When the phase after this one begins, unless it has a start of its own. -/
def followedAt? (phase : Phase) (start : Instant) : Option Instant :=
  match phase.delay with
  | some delay => start.after? delay.inSeconds
  | none => some start

theorem startsFrom_cons {inherited : Option Instant} {phase : Phase} {rest : List Phase} :
    startsFrom inherited (phase :: rest) = some starts ↔
      ∃ start later, (phase.start <|> inherited) = some start ∧
        startsFrom (followedAt? phase start) rest = some later ∧ starts = start :: later := by
  simp only [startsFrom, bind, Option.bind_eq_some_iff, pure, Option.some.injEq, exists_and_left]
  constructor
  · rintro ⟨start, begins, later, told, rfl⟩
    exact ⟨start, begins, later, told, rfl⟩
  · rintro ⟨start, begins, later, told, rfl⟩
    exact ⟨start, begins, later, told, rfl⟩

theorem length_of_startsFrom {inherited : Option Instant}
    (told : startsFrom inherited phases = some starts) : starts.length = phases.length := by
  induction phases generalizing inherited starts with
  | nil =>
    obtain rfl := Option.some.inj told
    rfl
  | cons phase rest ih =>
    obtain ⟨start, later, _, next, rfl⟩ := startsFrom_cons.mp told
    simp [ih next]

/-- Only the first phase may be asked for without a start, if it has none of its own. -/
theorem startTimes_of_effectiveStarts {first : Phase} {rest : List Phase}
    (told : effectiveStarts (first :: rest) now = some starts) :
    ∃ later, starts = first.start.getD now :: later ∧ later.length = rest.length ∧
      startTimes (first :: rest) now = .ok (first.start :: later.map some) := by
  obtain ⟨start, later, begins, next, rfl⟩ := startsFrom_cons.mp told
  have own : start = first.start.getD now := by
    cases given : first.start <;> simp_all
  refine ⟨later, by rw [own], length_of_startsFrom next, ?_⟩
  unfold startTimes
  rw [told]

/-- The next phase has to wait for this one. -/
def Delays (phase : Phase) : Prop := ∃ delay, phase.delay = some delay ∧ 0 < delay.amount

theorem lt_followedAt?_iff {phase : Phase} {start following : Instant}
    (followed : followedAt? phase start = some following) : start < following ↔ Delays phase := by
  unfold followedAt? at followed
  unfold Delays
  cases given : phase.delay with
  | none =>
    rw [given] at followed
    obtain rfl := Option.some.inj followed
    simp [Instant.lt_irrefl]
  | some delay =>
    rw [given] at followed
    simp [Instant.lt_after?_iff followed, Delay.inSeconds_pos]

/-- A phase without a start of its own takes the one that it inherits. -/
theorem startsFrom_cons_of_unscheduled {inherited : Option Instant} {phase : Phase}
    {rest : List Phase} (unscheduled : phase.start = none) :
    startsFrom inherited (phase :: rest) = some starts ↔
      ∃ start later, inherited = some start ∧
        startsFrom (followedAt? phase start) rest = some later ∧ starts = start :: later := by
  rw [startsFrom_cons, unscheduled]
  rfl

theorem increasing_startsFrom_iff {start : Instant}
    (unscheduled : ∀ phase ∈ phases, phase.start = none)
    (told : startsFrom (some start) phases = some starts) :
    increasing starts = true ↔ ∀ phase ∈ phases.dropLast, Delays phase := by
  -- What the rest inherits is the start after the first phase, so the start is general.
  induction phases generalizing start starts with
  | nil =>
    obtain rfl := Option.some.inj told
    simp [increasing]
  | cons phase rest ih =>
    obtain ⟨own, others⟩ := List.forall_mem_cons.mp unscheduled
    obtain ⟨_, later, begins, after, rfl⟩ := (startsFrom_cons_of_unscheduled own).mp told
    obtain rfl := Option.some.inj begins
    cases rest with
    | nil =>
      obtain rfl := Option.some.inj after
      simp [increasing]
    | cons next rest =>
      obtain ⟨following, _, followed, _, rfl⟩ :=
        (startsFrom_cons_of_unscheduled (others next List.mem_cons_self)).mp after
      rw [followed] at after
      simp only [increasing, Bool.and_eq_true, decide_eq_true_eq, lt_followedAt?_iff followed,
        ih others after, List.dropLast_cons_cons, List.forall_mem_cons]

end FleetRollout.Rollout
