import FleetRollout.Time.Calendar

/-! Instants of universal time with nanoseconds. A leap second shares the number of the second
before it and carries a billion nanoseconds more. -/
namespace FleetRollout

def nanosPerSecond : Nat := 1000000000

def secondsPerDay : Nat := 86400

namespace Instant

def firstDate : Date := ⟨-262143, 1, 1⟩

def lastDate : Date := ⟨262142, 12, 31⟩

def leastSecond : Int := firstDate.toDays * secondsPerDay
def greatestSecond : Int := lastDate.toDays * secondsPerDay + (secondsPerDay - 1)

/-- In range. A leap second follows the last second of a minute only, since neither a clock nor a text
nor a sum gives one elsewhere. -/
abbrev Valid (second : Int) (nano : Nat) : Prop :=
  leastSecond ≤ second ∧ second ≤ greatestSecond ∧ nano < 2 * nanosPerSecond ∧
    (nanosPerSecond ≤ nano → second % 60 = 59)

end Instant

/-- An instant: seconds from 1970-01-01T00:00:00Z, leap seconds not counted, and nanoseconds. -/
structure Instant where
  second : Int
  nano : Nat
  valid : Instant.Valid second nano
deriving DecidableEq

namespace Instant

instance : Repr Instant := ⟨fun t _ => repr (t.second, t.nano)⟩

def ofParts? (second : Int) (nano : Nat) : Option Instant :=
  if h : Valid second nano then some ⟨second, nano, h⟩ else none

/-- Earlier than: by the second, then by the nanosecond. -/
protected def lt (a b : Instant) : Prop :=
  a.second < b.second ∨ a.second = b.second ∧ a.nano < b.nano

instance : LT Instant := ⟨Instant.lt⟩

instance (a b : Instant) : Decidable (a < b) :=
  inferInstanceAs (Decidable (a.second < b.second ∨ a.second = b.second ∧ a.nano < b.nano))

theorem lt_iff {a b : Instant} :
    a < b ↔ a.second < b.second ∨ a.second = b.second ∧ a.nano < b.nano := Iff.rfl

theorem lt_irrefl (a : Instant) : ¬ a < a := by simp [lt_iff]

theorem lt_trans {a b c : Instant} (h : a < b) (h' : b < c) : a < c := by
  simp only [lt_iff] at *; omega

/-- The instant some seconds later; a leap second counts as one second if any time passes. -/
def after? (t : Instant) (seconds : Nat) : Option Instant :=
  if seconds = 0 then some t else ofParts? (t.second + seconds) (t.nano % nanosPerSecond)

theorem lt_after?_iff {t later : Instant} {seconds : Nat} (after : t.after? seconds = some later) :
    t < later ↔ 0 < seconds := by
  unfold after? at after
  split at after
  · rename_i none
    obtain rfl := Option.some.inj after
    simp [none, lt_irrefl]
  · rename_i some
    unfold ofParts? at after
    split at after
    · obtain rfl := Option.some.inj after
      simp only [lt_iff]
      omega
    · contradiction

/-- Only past the range is there no later instant. -/
theorem after?_eq_none_iff {t : Instant} {seconds : Nat} :
    t.after? seconds = none ↔ greatestSecond < t.second + seconds := by
  obtain ⟨first, last, _⟩ := t.valid
  have small : t.nano % nanosPerSecond < nanosPerSecond := Nat.mod_lt _ (by decide)
  unfold after?
  split
  · rename_i none
    subst none
    simp only [reduceCtorEq, false_iff]
    omega
  · rw [ofParts?, dite_eq_right_iff]
    simp only [reduceCtorEq, imp_false, Valid]
    omega

/-- Time that passes in two parts passes as one, also from a leap second. -/
theorem after?_add (t : Instant) (before later : Nat) :
    t.after? (before + later) = (t.after? before).bind (·.after? later) := by
  cases between : t.after? before with
  | none =>
    rw [after?_eq_none_iff] at between
    rw [Option.bind_none, after?_eq_none_iff]
    omega
  | some u =>
    rw [Option.bind_some]
    unfold after? at between ⊢
    split at between
    · rename_i none
      obtain rfl := Option.some.inj between
      rw [none, Nat.zero_add]
    · rename_i some
      unfold ofParts? at between
      split at between
      · rename_i valid
        obtain rfl := Option.some.inj between
        rw [if_neg (by omega), Nat.mod_mod, Int.natCast_add, ← Int.add_assoc]
        split
        · rename_i none
          rw [none, Int.natCast_zero, Int.add_zero]
          exact dif_pos valid
        · rfl
      · contradiction

def date (t : Instant) : Date := .ofDays (t.second / secondsPerDay)

def secondOfDay (t : Instant) : Nat := (t.second % secondsPerDay).toNat

def epoch : Instant := ⟨0, 0, by decide⟩

instance : Inhabited Instant := ⟨epoch⟩

end Instant
end FleetRollout
