import FleetRollout.Proofs.Text.Numeral
import FleetRollout.Proofs.Time.Calendar
import FleetRollout.Time.Text

/-! The text of an instant reads as that instant: years of any sign and length, leap seconds and
fractions included. -/
namespace FleetRollout.Instant
open Text

variable {rest : List Char}

theorem trimStart_token {c : Char} (token : isBlank c = false) (rest : List Char) :
    trimStart (c :: rest) = c :: rest := List.dropWhile_cons_of_neg (by simp [token])

theorem separator?_self {c : Char} (token : isBlank c = false) (rest : List Char) :
    separator? c (c :: rest) = some rest := by
  rw [separator?, trimStart_token token]
  exact if_pos rfl

/-- A row of digits that is not longer than allowed is read up to its end. -/
theorem digitsUpTo?_row {width : Nat} {ds : List Char} (present : ds ≠ [])
    (all : ∀ c ∈ ds, c.isDigit = true) (fits : ds.length ≤ width)
    (stops : ∀ c ∈ (rest.take (width - ds.length)).head?, c.isDigit = false) :
    digitsUpTo? width (ds ++ rest) = some (digitsValue ds, rest) := by
  rw [digitsUpTo?, List.take_append, List.take_of_length_le fits, takeWhile_run all stops]
  split
  · contradiction
  · rw [List.drop_left]

theorem digitsUpTo?_paddedDigits {width n : Nat} (positive : 0 < width)
    (fits : n < Nat.pow 10 width) :
    digitsUpTo? width (paddedDigits width n ++ rest) = some (n, rest) := by
  have length := length_paddedDigits positive fits
  rw [digitsUpTo?_row (paddedDigits_ne_nil width n) (fun _ => isDigit_of_mem_paddedDigits)
    (by omega) (by simp [length]), digitsValue_paddedDigits]

theorem paddedDigits_append_ne {width n : Nat} {c : Char} {tail : List Char}
    (other : c.isDigit = false) : paddedDigits width n ++ rest ≠ c :: tail := by
  intro same
  obtain ⟨d, ds, row, digit⟩ := paddedDigits_eq_cons width n
  rw [row] at same
  rw [(List.cons.inj same).1, other] at digit
  contradiction

theorem trimStart_paddedDigits (width n : Nat) (rest : List Char) :
    trimStart (paddedDigits width n ++ rest) = paddedDigits width n ++ rest := by
  obtain ⟨c, tail, row, digit⟩ := paddedDigits_eq_cons width n
  rw [row]
  exact trimStart_token (isBlank_of_isDigit digit) _

theorem number?_pair {n : Nat} (small : n < 100) (rest : List Char) :
    number? 2 (paddedDigits 2 n ++ rest) = some (n, rest) := by
  rw [number?, trimStart_paddedDigits]
  exact digitsUpTo?_paddedDigits (by decide) small

theorem digitsUpTo?_signed (n : Nat) (rest : List Char) :
    digitsUpTo? (paddedDigits 4 n ++ '-' :: rest).length (paddedDigits 4 n ++ '-' :: rest) =
      some (n, '-' :: rest) := by
  rw [digitsUpTo?_row (paddedDigits_ne_nil 4 n) (fun _ => isDigit_of_mem_paddedDigits) (by simp),
    digitsValue_paddedDigits]
  simp

theorem year?_yearText (year : Int) (rest : List Char) :
    year? (yearText year ++ '-' :: rest) = some (year, '-' :: rest) := by
  unfold yearText
  dsimp only
  split
  · rename_i negative
    have signed := digitsUpTo?_signed year.natAbs rest
    rw [List.cons_append, year?, trimStart_token rfl]
    simp only [signed, Option.map_some, Option.some.injEq, Prod.mk.injEq, and_true]
    omega
  · split
    · rename_i natural long
      have signed := digitsUpTo?_signed year.natAbs rest
      rw [List.cons_append, year?, trimStart_token rfl]
      simp only [signed, Option.map_some, Option.some.injEq, Prod.mk.injEq, and_true]
      omega
    · have short : year.natAbs < 10 ^ 4 := by omega
      rw [year?, trimStart_paddedDigits]
      split
      · exact absurd ‹_› (paddedDigits_append_ne rfl)
      · exact absurd ‹_› (paddedDigits_append_ne rfl)
      · rw [digitsUpTo?_paddedDigits (by decide) short]
        simp only [Option.map_some, Option.some.injEq, Prod.mk.injEq, and_true]
        omega

theorem fraction?_point {width k : Nat} (positive : 0 < width) (le : width ≤ 9)
    (fits : k < Nat.pow 10 width) :
    fraction? ('.' :: paddedDigits width k ++ ['Z']) =
      some (k * Nat.pow 10 (9 - width), ['Z']) := by
  have length := length_paddedDigits positive fits
  have row : (paddedDigits width k ++ ['Z']).takeWhile Char.isDigit = paddedDigits width k :=
    takeWhile_run (fun _ => isDigit_of_mem_paddedDigits) (by simp)
  rw [List.cons_append, fraction?, row]
  split
  · exact absurd ‹_› (paddedDigits_ne_nil width k)
  · have all : (paddedDigits width k).take 9 = paddedDigits width k :=
      List.take_of_length_le (by omega)
    simp only [all, length, List.drop_left' length, digitsValue_paddedDigits]

theorem fraction?_fractionText {nano : Nat} (small : nano < nanosPerSecond) :
    fraction? (fractionText nano ++ ['Z']) = some (nano, ['Z']) := by
  unfold nanosPerSecond at small
  unfold fractionText
  split
  · rename_i zero
    rw [zero]
    rfl
  · split
    · have fits : nano / 1000000 < 1000 := by omega
      have value : nano / 1000000 * 1000000 = nano := by omega
      rw [fraction?_point (by decide) (by decide) fits]
      exact congrArg (fun n => some (n, ['Z'])) value
    · split
      · have fits : nano / 1000 < 1000000 := by omega
        have value : nano / 1000 * 1000 = nano := by omega
        rw [fraction?_point (by decide) (by decide) fits]
        exact congrArg (fun n => some (n, ['Z'])) value
      · rw [fraction?_point (by decide) (by decide) small]
        exact congrArg (fun n => some (n, ['Z'])) (Nat.mul_one nano)

theorem date_isValid (t : Instant) : t.date.isValid = true := Date.isValid_ofDays _

theorem date_year_bounds (t : Instant) :
    firstDate.year ≤ t.date.year ∧ t.date.year ≤ lastDate.year := by
  obtain ⟨first, last, _⟩ := t.valid
  have early : firstDate.year = (Date.ofDays firstDate.toDays).year := by decide
  have late : lastDate.year = (Date.ofDays lastDate.toDays).year := by decide
  unfold leastSecond secondsPerDay at first
  unfold greatestSecond secondsPerDay at last
  rw [early, late]
  constructor
  · apply Date.year_ofDays_mono
    unfold secondsPerDay
    omega
  · apply Date.year_ofDays_mono
    unfold secondsPerDay
    omega

theorem secondOfDay_lt (t : Instant) : t.secondOfDay < 86400 := by
  unfold secondOfDay secondsPerDay
  omega

/-- Only the last second of a minute is followed by a leap second. -/
theorem leap_cases (t : Instant) :
    t.nano / nanosPerSecond = 0 ∨
      t.nano / nanosPerSecond = 1 ∧ t.secondOfDay % 60 = 59 := by
  obtain ⟨_, _, small, leap⟩ := t.valid
  unfold nanosPerSecond at *
  unfold secondOfDay secondsPerDay
  omega

theorem ofLocal?_date (t : Instant) :
    ofLocal? t.date (t.secondOfDay / 3600) (t.secondOfDay / 60 % 60)
      (t.secondOfDay % 60 + t.nano / nanosPerSecond) (t.nano % nanosPerSecond) 0 = some t := by
  obtain ⟨first, last⟩ := date_year_bounds t
  have day : t.date.toDays = t.second / secondsPerDay := Date.toDays_ofDays _
  have seconds : t.second / secondsPerDay * secondsPerDay +
      (3600 * ((t.secondOfDay / 3600 : Nat) : Int) + 60 * ((t.secondOfDay / 60 % 60 : Nat) : Int) +
        ((t.secondOfDay % 60 : Nat) : Int)) = t.second := by
    unfold secondOfDay secondsPerDay
    omega
  have hour : t.secondOfDay / 3600 < 24 := by
    have within := secondOfDay_lt t
    omega
  obtain ⟨second, leap⟩ : t.secondOfDay % 60 + t.nano / nanosPerSecond ≤ 60 ∧
      (t.secondOfDay % 60 + t.nano / nanosPerSecond) / 60 = t.nano / nanosPerSecond := by
    obtain none | ⟨one, last⟩ := leap_cases t
    · rw [none]
      omega
    · rw [one, last]
      decide
  rw [ofLocal?, if_pos (by simp [date_isValid, first, last, second, hour]; omega)]
  simp only [leap, day, Nat.add_sub_cancel, Int.mul_zero, Int.sub_zero]
  rw [seconds, Nat.mod_add_div']
  exact dif_pos t.valid

/-- The text of an instant is read as it. -/
theorem ofChars?_chars (t : Instant) : ofChars? t.chars = some t := by
  have within := secondOfDay_lt t
  obtain ⟨month, day⟩ := Date.lt_of_isValid t.date_isValid
  have hour : t.secondOfDay / 3600 < 100 := by omega
  have minute : t.secondOfDay / 60 % 60 < 100 := by omega
  have second : t.secondOfDay % 60 + t.nano / nanosPerSecond < 100 := by
    obtain none | ⟨one, _⟩ := leap_cases t
    · omega
    · omega
  have dash (rest : List Char) : separator? '-' ('-' :: rest) = some rest :=
    separator?_self rfl rest
  have colon (rest : List Char) : separator? ':' (':' :: rest) = some rest :=
    separator?_self rfl rest
  have fraction := fraction?_fractionText (Nat.mod_lt t.nano (by decide : 0 < nanosPerSecond))
  have zone : offset? (trimStart ['Z']) = some (0, []) := by decide
  unfold chars dateText ofChars?
  simp only [List.append_assoc, List.cons_append, year?_yearText, dash, number?_pair month,
    number?_pair day, timeMark?, number?_pair hour, colon, number?_pair minute,
    number?_pair second, fraction, zone, Option.bind_eq_bind, Option.bind_some]
  exact ofLocal?_date t

theorem ofText?_toText (t : Instant) : ofText? t.toText = some t := by
  rw [ofText?, toText, String.toList_ofList]
  exact ofChars?_chars t

end FleetRollout.Instant
