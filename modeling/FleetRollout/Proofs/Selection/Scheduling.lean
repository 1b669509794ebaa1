import FleetRollout.Proofs.Rollout.Distribution
import FleetRollout.Proofs.Rollout.Starts
import FleetRollout.Proofs.Selection.Addressing
import FleetRollout.Proofs.Selection.Completeness

/-! The phases of a request. A selection with valid phases makes a request whose phases begin one
after the other and divide the devices so that each phase gets some. -/
namespace FleetRollout

def RequestPhase.percent (p : RequestPhase) : Nat := (p.batchSize.getD 0).toNat

namespace Rollout

def sentPercents (sent : List RequestPhase) : List Nat :=
  sent.dropLast.map RequestPhase.percent

/-- The phases of a request can be rolled out to so many devices. A first phase without a start
begins now. -/
structure RollsOut (sent : List RequestPhase) (devices : Nat) (now : Instant) : Prop where
  scheduled : ∀ p ∈ sent.tail, p.start.isSome = true
  ordered : (sent.map fun p => p.start.getD now).Pairwise (· < ·)
  sized : ∀ p ∈ sent.dropLast, ∃ size, p.batchSize = some size ∧ 1 ≤ size
  under : (sentPercents sent).sum < 100
  remainder : sent.getLast?.map RequestPhase.batchSize = some none
  complete : (portions devices (sentPercents sent)).length = sent.length
  reached : ∀ portion ∈ portions devices (sentPercents sent), 1 ≤ portion
  distributed : (portions devices (sentPercents sent)).sum = devices

variable {sent : List RequestPhase} {devices : Nat} {now : Instant}

theorem sized_of_reaches (reaches : ∀ percent ∈ sentPercents sent, 100 ≤ devices * percent) :
    ∀ p ∈ sent.dropLast, ∃ size, p.batchSize = some size ∧ 1 ≤ size := by
  intro p leading
  have reached := reaches p.percent (List.mem_map_of_mem leading)
  cases sized : p.batchSize with
  | none => simp [RequestPhase.percent, sized] at reached
  | some size =>
    refine ⟨size, rfl, ?_⟩
    have positive : size.toNat ≠ 0 := by
      intro none
      simp [RequestPhase.percent, sized, none] at reached
    exact UInt32.le_iff_toNat_le.mpr (Nat.one_le_iff_ne_zero.mpr positive)

end Rollout

namespace Selection
open Rollout
variable {s : Selection} {phases : List Phase} {devices : UInt64} {now : Instant}

theorem requestPhases_cons_cons {phase next : Phase} {rest : List Phase} {start : Option Instant}
    {starts : List (Option Instant)} :
    requestPhases (phase :: next :: rest) (start :: starts) =
      ⟨phase.batchSize, start⟩ :: requestPhases (next :: rest) starts := rfl

/-- The request has the starts that were told, and the sizes of all phases but the last. -/
theorem requestPhases_columns (phase : Phase) (rest : List Phase) {starts : List (Option Instant)}
    (same : starts.length = (phase :: rest).length) :
    (requestPhases (phase :: rest) starts).map RequestPhase.start = starts ∧
      (requestPhases (phase :: rest) starts).map RequestPhase.batchSize =
        (phase :: rest).dropLast.map Phase.batchSize ++ [none] := by
  induction rest generalizing phase starts with
  | nil =>
    obtain ⟨start, rfl⟩ := List.length_eq_one_iff.mp same
    exact ⟨rfl, rfl⟩
  | cons next rest ih =>
    obtain _ | ⟨start, starts⟩ := starts
    · contradiction
    · obtain ⟨told, sized⟩ := ih next (Nat.succ.inj same)
      rw [requestPhases_cons_cons]
      exact ⟨by rw [List.map_cons, told], by rw [List.map_cons, sized]; rfl⟩

section Columns
variable {sent : List RequestPhase}
  (sizes : sent.map RequestPhase.batchSize = phases.dropLast.map Phase.batchSize ++ [none])
include sizes

theorem leading_sizes :
    sent.dropLast.map RequestPhase.batchSize = phases.dropLast.map Phase.batchSize := by
  rw [List.map_dropLast, sizes, List.dropLast_concat]

theorem sentPercents_of_sizes : sentPercents sent = leadingPercents phases := by
  calc sentPercents sent
    _ = (sent.dropLast.map RequestPhase.batchSize).map fun size => (size.getD 0).toNat := by
      rw [List.map_map]; rfl
    _ = leadingPercents phases := by rw [leading_sizes sizes, List.map_map]; rfl

/-- Starts that are in order, and percentages that reach the devices, make a rollout. -/
theorem rollsOut_of_columns {first : Option Instant} {later : List Instant}
    (starts : sent.map RequestPhase.start = first :: later.map some)
    (ordered : (first.getD now :: later).Pairwise (· < ·))
    (under : (leadingPercents phases).sum < 100)
    (reaches : ∀ percent ∈ leadingPercents phases, 100 ≤ devices.toNat * percent)
    (positive : 0 < devices.toNat) : RollsOut sent devices.toNat now := by
  have percents := sentPercents_of_sizes sizes
  rw [← percents] at under reaches
  have begin : sent.map (fun p => p.start.getD now) = first.getD now :: later := by
    have column := congrArg (List.map fun start => start.getD now) starts
    simpa [Function.comp_def] using column
  have next : sent.tail.map RequestPhase.start = later.map some := by
    rw [List.map_tail, starts, List.tail_cons]
  refine ⟨?_, begin ▸ ordered, sized_of_reaches reaches, under, ?_, ?_,
    one_le_of_mem_portions positive under reaches, sum_portions positive under⟩
  · intro p found
    have told : p.start ∈ later.map some := next ▸ List.mem_map_of_mem found
    obtain ⟨start, _, told⟩ := List.mem_map.mp told
    rw [← told, Option.isSome_some]
  · rw [← List.getLast?_map, sizes, List.getLast?_concat]
  · have count : sent.length = later.length + 1 := by simpa using congrArg List.length starts
    rw [length_portions, sentPercents, List.length_map, List.length_dropLast, count]
    rfl

end Columns

/-- A selection with valid phases makes a request, and its phases roll out to the devices, with the
sizes that were chosen. The first one keeps its own start. -/
theorem request_rolls_out (flags : RequestFlags) (released : s.release.isSome = true)
    (targeted : s.target.mode.isSome = true) (phased : s.phases = some phases)
    (nonempty : phases ≠ []) (fits : (leadingPercents phases).sum < UInt32.size)
    (valid : isValid phases devices now = true) :
    ∃ request sent, s.request flags now = .ok request ∧ request.phases = some sent ∧
      sent.length = phases.length ∧
      sent.head?.map RequestPhase.start = phases.head?.map Phase.start ∧
      sent.dropLast.map RequestPhase.batchSize = phases.dropLast.map Phase.batchSize ∧
      RollsOut sent devices.toNat now := by
  obtain ⟨release, picked⟩ := Option.isSome_iff_exists.mp released
  obtain ⟨addressee, addressed⟩ := addressed_of_mode (r := s.draft release flags) targeted
  have rollout : s.rollout? = some phases := rollout?_eq_some.mpr ⟨phased, nonempty⟩
  have positive : 0 < devices.toNat := pos_of_isValid nonempty valid
  obtain _ | ⟨first, rest⟩ := phases
  · contradiction
  obtain ⟨_, effective, increases, left, reaches⟩ := isValid_cons.mp valid
  obtain ⟨later, rfl, same, told⟩ := startTimes_of_effectiveStarts effective
  have scheduled := scheduled_of_startTimes (r := addressee) rollout told
  have paired : (first.start :: later.map some).length = (first :: rest).length := by simp [same]
  obtain ⟨starts, sizes⟩ := requestPhases_columns first rest paired
  refine ⟨_, _, request_eq_ok.mpr ⟨release, addressee, picked, addressed, scheduled⟩, rfl, ?_, ?_,
    leading_sizes sizes, ?_⟩
  · have count := congrArg List.length starts
    rw [List.length_map] at count
    exact count.trans paired
  · rw [← List.head?_map, starts]
    rfl
  · have ordered := increasing_iff_pairwise.mp increases
    have under := (remainderPercent_ne_zero fits).mp left
    have reached := ((reachesDevices_iff nonempty).mp reaches).1
    exact rollsOut_of_columns sizes starts ordered under reached positive

def mixed : List Phase :=
  [(Phase.ofSize 10).withDelay (.hours 1), .ofSize 20,
    Phase.startingAt {} ⟨secondsPerDay / 2, 0, by decide⟩]

def mixedToAll : Selection :=
  { release := some ⟨"v2"⟩, target := .allDevices, phases := some mixed }

theorem request_rolls_out_mixed :
    ∃ request sent, mixedToAll.request {} .epoch = .ok request ∧ request.phases = some sent ∧
      sent.length = 3 ∧ sent.head?.map RequestPhase.start = some none ∧
      sent.dropLast.map RequestPhase.batchSize = [some 10, some 20] ∧ RollsOut sent 25 .epoch := by
  have valid : isValid mixed 25 .epoch = true := by decide
  exact request_rolls_out {} rfl rfl rfl (List.cons_ne_nil _ _) (by decide) valid

end Selection
end FleetRollout
