import FleetRollout.Backend.Fixed
import FleetRollout.Wizard.Basic

/-! The world around a wizard as a value: an API with fixed answers, a tour, and records of all that
the wizard asked. A program of a wizard runs in it as a function. -/
namespace FleetRollout.Wizard

inductive Tour where
  | absent
  | running
  | over
deriving DecidableEq, Repr, Inhabited

structure World where
  api : FixedApi := {}
  tour : Tour := .absent
  /-- The number of created deployments. -/
  created : Nat := 0
  calls : List Call := []
  /-- The steps of the tour that were reported. -/
  steps : List OnboardingStep := []
  log : List LogEntry := []

namespace World

def noted (world : World) (entry : LogEntry) : World := { world with log := world.log ++ [entry] }

/-- Answers a question of a wizard. A missing tour is over, and ignores steps. -/
def answer (world : World) : (q : Question) → q.Answer × World
  | .call c =>
    (world.api.answer world.created c,
      { world with calls := world.calls ++ [c], created := world.api.createdAfter world.created c })
  | .log entry => ((), world.noted entry)
  | .advance step =>
    if world.tour = .absent then ((), world.noted ⟨.debug, step.ignoredMessage⟩)
    else ((), { world with steps := world.steps ++ [step] })
  | .tourIsComplete => (world.tour != .running, world)

def run {α : Type} (p : Program α) : StateM World α :=
  Dialogue.interpret (I := interface) (m := StateM World) (fun q world => answer world q) p

end World
end FleetRollout.Wizard
