import FleetRollout.Json.Reader
import FleetRollout.Json.Writer
import FleetRollout.Time.Text

/-! The phases of a rollout: the share of devices that a phase reaches, when it starts, and how
long the next phase waits for it. -/
namespace FleetRollout

open Json (Reader Record)

def Instant.toJson (t : Instant) : Json := .str t.toText

def Instant.read : Reader Instant := fun level s => (Reader.string level s).bind ofText?

inductive DelayUnit where
  | minutes
  | hours
  | days
deriving DecidableEq, Repr

namespace DelayUnit

def name : DelayUnit → String
  | minutes => "minutes"
  | hours => "hours"
  | days => "days"

def inMinutes : DelayUnit → Nat
  | minutes => 1
  | hours => 60
  | days => 1440

def read : Reader DelayUnit :=
  .word [("minutes", minutes), ("hours", hours), ("days", days)]

end DelayUnit

/-- The time between the start of a phase and the start of the next one. -/
structure Delay where
  amount : UInt32
  unit : DelayUnit
deriving DecidableEq, Repr

namespace Delay

def hours (amount : UInt32) : Delay := ⟨amount, .hours⟩

def inMinutes (d : Delay) : Nat := d.amount.toNat * d.unit.inMinutes

def inSeconds (d : Delay) : Nat := 60 * d.inMinutes

theorem inSeconds_pos {d : Delay} : 0 < d.inSeconds ↔ 0 < d.amount := by
  have exact : 0 < d.amount ↔ 0 < d.amount.toNat := UInt32.lt_iff_toNat_lt
  rw [exact]
  unfold inSeconds inMinutes
  cases d.unit <;> simp only [DelayUnit.inMinutes] <;> omega

def toJson (d : Delay) : Json :=
  .obj [("amount", .nat d.amount.toNat), ("unit", .str d.unit.name)]

def read : Reader Delay := fun level s => do
  let r ← Record.read ["amount", "unit"] level s
  return { amount := ← r.required "amount" .uint32
           unit := ← r.required "unit" DelayUnit.read }

end Delay

structure Phase where
  /-- The percentage of the devices; that of the last phase counts for nothing. -/
  batchSize : Option UInt32 := none
  /-- When the phase starts; a first phase without a start begins at once. -/
  start : Option Instant := none
  /-- How long after this phase the next one starts. -/
  delay : Option Delay := none
deriving DecidableEq, Repr

namespace Phase

def ofSize (batchSize : UInt32) : Phase := { batchSize := some batchSize }

def startingAt (p : Phase) (start : Instant) : Phase := { p with start := some start }

def withDelay (p : Phase) (delay : Delay) : Phase := { p with delay := some delay }

def unscheduled (p : Phase) : Phase := { p with start := none }

def toJson (p : Phase) : Json :=
  .obj [("batch_size", Json.orNull (fun n => .nat n.toNat) p.batchSize),
    ("start_ts", Json.orNull Instant.toJson p.start),
    ("delay", Json.orNull Delay.toJson p.delay)]

def read : Reader Phase := fun level s => do
  let r ← Record.read ["batch_size", "start_ts", "delay"] level s
  return { batchSize := ← r.optional "batch_size" .uint32
           start := ← r.optional "start_ts" Instant.read
           delay := ← r.optional "delay" Delay.read }

end Phase

def phasesToJson (phases : List Phase) : Json := .arr (phases.map Phase.toJson)

end FleetRollout
