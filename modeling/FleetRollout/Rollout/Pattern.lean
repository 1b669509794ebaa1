import FleetRollout.Error
import FleetRollout.Rollout.Phase
import FleetRollout.Text.Split

/-! Rollout patterns such as `50:2h,25:1d,*`: the percentage of each phase and the delay before the
next one. The last phase may be `*`, and takes what is left in any case. -/
namespace FleetRollout.Rollout
open Text

def unitOfLetter? : Char → Option DelayUnit
  | 'm' => some .minutes
  | 'h' => some .hours
  | 'd' => some .days
  | _ => none

def splitLast? : List Char → Option (List Char × Char)
  | [] => none
  | [c] => some ([], c)
  | c :: cs => (splitLast? cs).map fun (before, last) => (c :: before, last)

def parseDelay (value : List Char) : Except DeployError Delay :=
  let text := trim value
  let found : Option Delay := do
    let (amount, letter) ← splitLast? text
    let unit ← unitOfLetter? letter
    return ⟨← readUInt32 amount, unit⟩
  match found with
  | none => .error (.validation (.invalidDelay (String.ofList value)))
  | some delay =>
    if longestDelayDays * 1440 < delay.inMinutes then
      .error (.validation (.delayTooLong (String.ofList text)))
    else .ok delay

/-- Reads the percentage of a phase; `*` stands for what is left, on the last phase only. -/
def parseSize (pattern : List Char) (isLast : Bool) (size : List Char) :
    Except DeployError (Option UInt32) :=
  if size = ['*'] then
    if isLast then .ok none
    else .error (.validation (.remainderBeforeEnd (String.ofList pattern)))
  else
    match readUInt32 size with
    | none => .error (.validation (.sizeNotANumber (String.ofList size)))
    | some percent =>
      if percent = 0 || 100 < percent then .error (.validation (.sizeOutOfRange percent))
      else .ok (some percent)

def parseItem (pattern : List Char) (isLast : Bool) (item : List Char) :
    Except DeployError Phase := do
  match cut ':' item with
  | none => return { batchSize := ← parseSize pattern isLast item }
  | some (size, delay) =>
    let delay ← parseDelay delay
    return { batchSize := ← parseSize pattern isLast size, delay := some delay }

def parseItems (pattern : List Char) : List (List Char) → Except DeployError (List Phase)
  | [] => .ok []
  | item :: rest => do
    let phase ← parseItem pattern rest.isEmpty item
    return phase :: (← parseItems pattern rest)

/-- The items of a pattern: what stands between commas, trimmed, empty ones left out. -/
def patternItems (pattern : List Char) : List (List Char) :=
  ((pieces ',' pattern).map trim).filter fun item => !item.isEmpty

def parsePattern (pattern : String) : Except DeployError (List Phase) :=
  match patternItems pattern.toList with
  | [] => .error (.validation .emptyPattern)
  | items => parseItems pattern.toList items

end FleetRollout.Rollout
