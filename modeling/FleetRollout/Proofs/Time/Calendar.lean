import FleetRollout.Time.Calendar

/-! The date of a day: it is one of the calendar, and counting to it gives the day again. A day is
found by its cycle of 400 years, the year in the cycle, the day in the year and the month. -/
namespace FleetRollout.Date

/-- Days of a cycle before a year of it. -/
def yearStart (year : Int) : Int := 365 * year + year / 4 - year / 100

def yearOfCycle (day : Int) : Int := (day - day / 1460 + day / 36524 - day / 146096) / 365

theorem yearOfCycle_mono {day later : Int} (before : day ≤ later) :
    yearOfCycle day ≤ yearOfCycle later := by
  apply Int.ediv_le_ediv (by decide)
  omega

theorem yearOfCycle_first : ∀ year < 400, yearOfCycle (yearStart (year : Nat)) = year := by
  decide +kernel

theorem yearOfCycle_last :
    ∀ year < 399, yearOfCycle (yearStart ((year : Nat) + 1) - 1) = year := by
  decide +kernel

/-- A day of a year, counted from March: the leap day is the last one of the year before a leap
year's March. -/
structure IsDayOfYear (year day : Int) : Prop where
  year_nonneg : 0 ≤ year
  year_lt : year < 400
  nonneg : 0 ≤ day
  le : day ≤ 365
  leap : day = 365 → (year + 1) % 4 = 0 ∧ ((year + 1) % 100 ≠ 0 ∨ year = 399)

theorem isDayOfYear {day : Int} (nonneg : 0 ≤ day) (lt : day < cycleDays) :
    IsDayOfYear (yearOfCycle day) (day - yearStart (yearOfCycle day)) := by
  unfold cycleDays at lt
  have first : 0 ≤ yearOfCycle day := by
    unfold yearOfCycle
    omega
  have last : yearOfCycle day < 400 := by
    unfold yearOfCycle
    omega
  obtain ⟨year, same⟩ := Int.eq_ofNat_of_zero_le first
  rw [same] at last ⊢
  have begun : yearStart year ≤ day := by
    cases year with
    | zero => exact nonneg
    | succ year =>
      refine Int.not_lt.mp fun early => ?_
      rw [Int.natCast_succ] at early
      have before := yearOfCycle_mono (by omega : day ≤ yearStart (year + 1) - 1)
      rw [yearOfCycle_last year (by omega)] at before
      omega
  have going : year < 399 → day < yearStart (year + 1) := by
    intro other
    refine Int.not_le.mp fun late => ?_
    have after := yearOfCycle_mono late
    rw [← Int.natCast_succ, yearOfCycle_first (year + 1) (by omega)] at after
    omega
  unfold yearStart at begun going ⊢
  constructor
  · omega
  · omega
  · omega
  · omega
  · intro longest
    obtain rfl | other : year = 399 ∨ year < 399 := by omega
    · decide
    · have next := going (by omega)
      have fours : ((year : Int) + 1) / 4 = year / 4 + 1 := by omega
      have hundreds : ((year : Int) + 1) / 100 = year / 100 := by omega
      exact ⟨by omega, .inl (by omega)⟩

def monthOfYear (day : Int) : Int := (5 * day + 2) / 153

/-- The date of a day of a year, where the year is counted from March too. -/
def ofDayOfYear (year day : Int) : Date :=
  let month := if monthOfYear day < 10 then monthOfYear day + 3 else monthOfYear day - 9
  { year := if month ≤ 2 then year + 1 else year
    month := month.toNat
    day := (day - (153 * monthOfYear day + 2) / 5 + 1).toNat }

variable {cycle year day : Int}

theorem monthOfYear_bounds (nonneg : 0 ≤ day) (le : day ≤ 365) :
    0 ≤ monthOfYear day ∧ monthOfYear day ≤ 11 ∧ (153 * monthOfYear day + 2) / 5 ≤ day ∧
      day < (153 * (monthOfYear day + 1) + 2) / 5 := by
  unfold monthOfYear
  omega

/-- January and February belong to the next year. -/
theorem year_ofDayOfYear (nonneg : 0 ≤ day) (le : day ≤ 365) :
    (ofDayOfYear year day).year = if day < 306 then year else year + 1 := by
  by_cases inYear : day < 306
  · have month : monthOfYear day < 10 := by unfold monthOfYear; omega
    have march : ¬ monthOfYear day + 3 ≤ 2 := by unfold monthOfYear; omega
    simp only [ofDayOfYear, if_pos month, if_neg march, if_pos inYear]
  · have month : ¬ monthOfYear day < 10 := by unfold monthOfYear; omega
    have january : monthOfYear day - 9 ≤ 2 := by unfold monthOfYear; omega
    simp only [ofDayOfYear, if_neg month, if_pos january, if_neg inYear]

theorem toDays_ofDayOfYear (within : IsDayOfYear year day) :
    (ofDayOfYear (400 * cycle + year) day).toDays =
      cycle * cycleDays + (yearStart year + day) - epochDays := by
  obtain ⟨first, last, nonneg, le, _⟩ := within
  obtain ⟨early, late, begun, _⟩ := monthOfYear_bounds nonneg le
  have cycles : (400 * cycle + year) / 400 = cycle := by omega
  have years : (400 * cycle + year) % 400 = year := by omega
  unfold ofDayOfYear toDays yearStart
  generalize monthOfYear day = month at *
  obtain inYear | later : month < 10 ∨ 10 ≤ month := by omega
  · have number : ((month + 3).toNat : Int) = month + 3 := by omega
    have march : ¬ month + 3 ≤ 2 := by omega
    simp only [if_pos inYear, number, if_neg march, cycles, years]
    omega
  · have number : ((month - 9).toNat : Int) = month - 9 := by omega
    have january : month - 9 ≤ 2 := by omega
    have other : ¬ month < 10 := by omega
    simp only [if_neg other, number, if_pos january, Int.add_sub_cancel, cycles, years]
    omega

theorem isValid_ofDayOfYear (within : IsDayOfYear year day) :
    (ofDayOfYear (400 * cycle + year) day).isValid = true := by
  obtain ⟨_, _, nonneg, le, leap⟩ := within
  obtain ⟨early, late, begun, going⟩ := monthOfYear_bounds nonneg le
  unfold ofDayOfYear isValid monthLength isLeapYear
  generalize monthOfYear day = month at *
  obtain ⟨number, rfl⟩ := Int.eq_ofNat_of_zero_le early
  have month : number < 12 := by omega
  -- every month has its own length; only that of the last one, February, depends on the year
  match number, month with
  | 0, _ | 1, _ | 2, _ | 3, _ | 4, _ | 5, _ | 6, _ | 7, _ | 8, _ | 9, _ | 10, _ =>
    simp
    omega
  | 11, _ =>
    simp
    refine ⟨by omega, ?_⟩
    split
    · omega
    · omega

theorem lt_of_isValid {d : Date} (valid : d.isValid = true) : d.month < 100 ∧ d.day < 100 := by
  have longest : monthLength d.year d.month ≤ 31 := by
    unfold monthLength
    repeat' split
    all_goals decide
  simp only [isValid, Bool.and_eq_true, decide_eq_true_eq] at valid
  omega

theorem ofDays_eq (n : Int) :
    ofDays n =
      ofDayOfYear (400 * ((n + epochDays) / cycleDays) + yearOfCycle ((n + epochDays) % cycleDays))
        ((n + epochDays) % cycleDays - yearStart (yearOfCycle ((n + epochDays) % cycleDays))) := by
  rw [Int.mul_comm 400]
  rfl

theorem isDayOfYear_mod (day : Int) :
    IsDayOfYear (yearOfCycle (day % cycleDays))
      (day % cycleDays - yearStart (yearOfCycle (day % cycleDays))) :=
  isDayOfYear (Int.emod_nonneg _ (by decide)) (Int.emod_lt_of_pos _ (by decide))

theorem isValid_ofDays (n : Int) : (ofDays n).isValid = true := by
  rw [ofDays_eq]
  exact isValid_ofDayOfYear (isDayOfYear_mod _)

theorem toDays_ofDays (n : Int) : (ofDays n).toDays = n := by
  rw [ofDays_eq, toDays_ofDayOfYear (isDayOfYear_mod _)]
  unfold cycleDays
  omega

/-- Later days are not in earlier years. -/
theorem year_ofDays_mono {n later : Int} (before : n ≤ later) :
    (ofDays n).year ≤ (ofDays later).year := by
  have within := isDayOfYear_mod (n + epochDays)
  have within' := isDayOfYear_mod (later + epochDays)
  rw [ofDays_eq, ofDays_eq, year_ofDayOfYear within.nonneg within.le,
    year_ofDayOfYear within'.nonneg within'.le]
  have ordered : (n + epochDays) / cycleDays < (later + epochDays) / cycleDays ∨
      (n + epochDays) / cycleDays = (later + epochDays) / cycleDays ∧
        (n + epochDays) % cycleDays ≤ (later + epochDays) % cycleDays := by
    unfold cycleDays
    omega
  generalize (n + epochDays) / cycleDays = cycle at *
  generalize (later + epochDays) / cycleDays = cycle' at *
  generalize (n + epochDays) % cycleDays = day at *
  generalize (later + epochDays) % cycleDays = day' at *
  obtain ⟨first, last, _, _, _⟩ := within
  obtain ⟨first', last', _, _, _⟩ := within'
  obtain other | ⟨same, le⟩ := ordered
  · split <;> split <;> omega
  · have years := yearOfCycle_mono le
    generalize yearOfCycle day = year at *
    generalize yearOfCycle day' = year' at *
    obtain rfl | other : year = year' ∨ year < year' := by omega
    · split <;> split <;> omega
    · split <;> split <;> omega

end FleetRollout.Date
