import FleetRollout.Error
import FleetRollout.Rollout.Phase

/-! When the phases of a rollout start, what share of the devices is left for the last one, and
whether a rollout suits a number of devices. -/
namespace FleetRollout.Rollout

/-- What a build does with a sum that does not fit in 32 bits: the program stops, or the sum starts
again from zero. Programs are shipped in the second way, and tested in the first. -/
inductive Overflow where
  | stops
  | wraps
deriving DecidableEq, Repr

/-- A sum in 32 bits; there is none where the program stops. -/
def Overflow.add? (overflow : Overflow) (a b : UInt32) : Option UInt32 :=
  match overflow with
  | stops => if a.toNat + b.toNat < UInt32.size then some (a + b) else none
  | wraps => some (a + b)

def leadingSizes (phases : List Phase) : List UInt32 := phases.dropLast.filterMap Phase.batchSize

/-- The sum of the percentages of all phases but the last one. -/
def claimedPercent? (overflow : Overflow) (phases : List Phase) : Option UInt32 :=
  (leadingSizes phases).foldlM overflow.add? 0

/-- The percentage that is left for the last phase; zero if the others claim all or more. -/
def remainderPercent? (overflow : Overflow) (phases : List Phase) : Option UInt32 :=
  if phases.isEmpty then some 100
  else (claimedPercent? overflow phases).map fun claimed =>
    if 100 ≤ claimed then 0 else 100 - claimed

/-- The starts of phases, given the start that the first one falls back to, if that is in range. -/
def startsFrom : Option Instant → List Phase → Option (List Instant)
  | _, [] => some []
  | inherited, phase :: rest => do
    let start ← phase.start <|> inherited
    let next := match phase.delay with
      | some delay => start.after? delay.inSeconds
      | none => some start
    return start :: (← startsFrom next rest)

/-- The start of every phase: its own one, else the start before it plus the delay before it. The
first phase falls back to `now`. There are none if a start is past the range of instants. -/
def effectiveStarts (phases : List Phase) (now : Instant) : Option (List Instant) :=
  startsFrom (some now) phases

/-- The starts to ask the deployments service for: a first phase without a start of its own begins
at once, every later phase has its effective start. -/
def startTimes (phases : List Phase) (now : Instant) : Except DeployError (List (Option Instant)) :=
  match phases, effectiveStarts phases now with
  | _, none => .error (.validation .startOutOfRange)
  | first :: _, some (_ :: later) => .ok (first.start :: later.map some)
  | _, some _ => .ok []

/-- Each instant is earlier than the next. -/
def increasing : List Instant → Bool
  | a :: b :: rest => decide (a < b) && increasing (b :: rest)
  | _ => true

def greatestCount : Nat := UInt64.size - 1

/-- Whether a percentage of some devices is at least one device. The product is cut off at the
greatest number of 64 bits. -/
def reachesDevice (devices : UInt64) (percent : UInt32) : Bool :=
  1 ≤ min (devices.toNat * percent.toNat) greatestCount / 100

/-- Whether every phase but the last reaches a device by its own percentage, and the last one by
what is left. -/
def reachesDevices (devices : UInt64) (remainder : UInt32) : List Phase → Bool
  | [] => true
  | [_] => reachesDevice devices remainder
  | phase :: rest =>
    reachesDevice devices (phase.batchSize.getD 0) && reachesDevices devices remainder rest

/-- Whether phases suit a number of devices: the starts increase, something is left for the last
phase, and every phase reaches a device. No phases suit any number. There is no verdict where the
program stops at the sum of the percentages. -/
def isValid? (overflow : Overflow) (phases : List Phase) (devices : UInt64) (now : Instant) :
    Option Bool :=
  if phases.isEmpty then some true
  else
    match effectiveStarts phases now with
    | none => some false
    | some starts =>
      if increasing starts then
        (remainderPercent? overflow phases).map fun remainder =>
          remainder != 0 && reachesDevices devices remainder phases
      else some false

/-- The verdict of the shipped program. -/
def isValid (phases : List Phase) (devices : UInt64) (now : Instant) : Bool :=
  isValid? .wraps phases devices now = some true

end FleetRollout.Rollout
