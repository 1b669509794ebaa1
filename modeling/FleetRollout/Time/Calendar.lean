/-! The Gregorian calendar, extended to all years: days counted from 1970-01-01, and the date of a
day. Years are counted from March, so that the leap day ends a year. -/
namespace FleetRollout

structure Date where
  year : Int
  month : Nat
  day : Nat
deriving DecidableEq, Repr

namespace Date

def isLeapYear (year : Int) : Bool := year % 4 = 0 && (year % 100 ≠ 0 || year % 400 = 0)

def monthLength (year : Int) (month : Nat) : Nat :=
  if month = 2 then (if isLeapYear year then 29 else 28)
  else if month = 4 || month = 6 || month = 9 || month = 11 then 30 else 31

def isValid (d : Date) : Bool :=
  1 ≤ d.month && d.month ≤ 12 && 1 ≤ d.day && d.day ≤ monthLength d.year d.month

/-- Days of a cycle of 400 years. -/
def cycleDays : Int := 146097

/-- Days from 0000-03-01 to 1970-01-01. -/
def epochDays : Int := 719468

def toDays (d : Date) : Int :=
  let month : Int := d.month
  let year := if month ≤ 2 then d.year - 1 else d.year
  let monthOfYear := if month ≤ 2 then month + 9 else month - 3
  let yearOfCycle := year % 400
  let dayOfYear := (153 * monthOfYear + 2) / 5 + d.day - 1
  let dayOfCycle := 365 * yearOfCycle + yearOfCycle / 4 - yearOfCycle / 100 + dayOfYear
  year / 400 * cycleDays + dayOfCycle - epochDays

def ofDays (n : Int) : Date :=
  let day := n + epochDays
  let dayOfCycle := day % cycleDays
  let yearOfCycle :=
    (dayOfCycle - dayOfCycle / 1460 + dayOfCycle / 36524 - dayOfCycle / 146096) / 365
  let dayOfYear := dayOfCycle - (365 * yearOfCycle + yearOfCycle / 4 - yearOfCycle / 100)
  let monthOfYear := (5 * dayOfYear + 2) / 153
  let month := if monthOfYear < 10 then monthOfYear + 3 else monthOfYear - 9
  let year := day / cycleDays * 400 + yearOfCycle
  { year := if month ≤ 2 then year + 1 else year
    month := month.toNat
    day := (dayOfYear - (153 * monthOfYear + 2) / 5 + 1).toNat }

example : (Date.mk 1970 1 1).toDays = 0 ∧ (Date.mk 2000 2 29).toDays = 11016 := by decide
example : ofDays 11016 = ⟨2000, 2, 29⟩ ∧ ofDays (-719529) = ⟨-1, 12, 31⟩ := by decide

end Date
end FleetRollout
