import FleetRollout.Proofs.CommandLine.DryRun
import FleetRollout.Proofs.CommandLine.Files
import FleetRollout.Proofs.CommandLine.Wire

/-! What the program creates and what it leaves behind, over all answers and on any disk. -/
namespace FleetRollout.CommandLine

open Http (Locating Repeats creating maxRedirections)

variable {es : List (Dialogue.Exchange interface)}

theorem Initializes.writes_eq {values : Dict String} (initializes : Initializes values es) :
    writes es = [(settingsPath values, Settings.toText {})] := by
  obtain ⟨_, fault, answer, after, rfl, rest⟩ := initializes
  exact congrArg (_ :: ·) rest

theorem Remembers.writes_eq {answers} {path : String} {settings : Settings}
    (remembers : Remembers answers path settings es) : ∃ kept : Settings,
      writes es = [(path, kept.toText)] := by
  obtain ⟨before, answer, after, post, response, kept, rfl, clean, rest, _⟩ := remembers
  refine ⟨kept, ?_⟩
  rw [writes_append, clean, List.nil_append]
  exact congrArg (_ :: ·) rest

/-- Only the settings file is written. -/
theorem path_of_mem_writes {answers} {values : Dict String} {path text : String}
    (written : writes es = [] ∨ Initializes values es ∨ ∃ settings, Loads es settings ∧
      Remembers answers (settingsPath values) settings es)
    (member : (path, text) ∈ writes es) : path = settingsPath values := by
  obtain unwritten | initializes | ⟨settings, _, remembers⟩ := written
  · simp [unwritten] at member
  · rw [initializes.writes_eq] at member
    exact (Prod.mk.inj (List.mem_singleton.mp member)).1
  · obtain ⟨kept, one⟩ := remembers.writes_eq
    rw [one] at member
    exact (Prod.mk.inj (List.mem_singleton.mp member)).1

theorem OnWire.written {locate : Locating} {values : Dict String}
    {js : List (Dialogue.Exchange interface)} (wired : OnWire locate es js)
    (written : writes es = [] ∨ Initializes values es ∨ ∃ settings, Loads es settings ∧
      Remembers Responds (settingsPath values) settings es) :
    writes js = [] ∨ Initializes values js ∨ ∃ settings, Loads js settings ∧
      Remembers (LeadsTo locate) (settingsPath values) settings js := by
  obtain unwritten | initializes | ⟨settings, loads, remembers⟩ := written
  · exact .inl (wired.writes_eq.trans unwritten)
  · exact .inr (.inl (wired.initializes initializes))
  · refine .inr (.inr ⟨settings, ?_, wired.remembers remembers⟩)
    rw [Loads, wired.settingsRead_eq]
    exact loads

/-- Surroundings without files, where the creation of a deployment is to be tried elsewhere, and
succeeds there. -/
def redirecting : Dialogue.Surroundings interface
  | past, .exchange request =>
    if request.method = .post && request.url.target ≠ "/again" then
      .ok { status := 307, headers := [("Location", "/again")] }
    else creationOnly past (.exchange request)
  | past, q => creationOnly past q

end FleetRollout.CommandLine
