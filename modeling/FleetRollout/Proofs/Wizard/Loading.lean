import FleetRollout.Proofs.Wizard.Consistency
import FleetRollout.Proofs.Wizard.Opening

/-! Loading the devices that were picked. Each of them that is not known is asked for, as often as it
was picked; what the last successful answer tells of it is known from then on, and nothing else
changes. -/
namespace FleetRollout.Wizard

abbrev DeviceAnswer := DeviceId × Except DeployError DeviceRecord

namespace DeviceAnswer

def call (a : DeviceAnswer) : AnsweredCall := ⟨.device a.1, a.2⟩

theorem call_injective : Function.Injective call := by
  rintro ⟨id, answer⟩ ⟨id', answer'⟩ same
  simpa [call] using same

/-- What an answer adds to the devices that are known; a failure adds nothing. -/
def learned (known : DevicesById) : DeviceAnswer → DevicesById
  | (_, .ok record) => known.insert record.id record.attributes
  | (_, .error _) => known

def attributesOf? (id : DeviceId) : DeviceAnswer → Option Attributes
  | (asked, .ok record) => if asked = id then some record.attributes else none
  | (_, .error _) => none

end DeviceAnswer

/-- What the last successful answer for a device tells of it. -/
def lastTold? (id : DeviceId) (answers : List DeviceAnswer) : Option Attributes :=
  (answers.filterMap (DeviceAnswer.attributesOf? id)).getLast?

/-- Each successful answer carries the id that was asked for. -/
def OwnIds (answers : List DeviceAnswer) : Prop :=
  ∀ id record, (id, .ok record) ∈ answers → record.id = id

def unknown (known : DevicesById) (ids : List DeviceId) : List DeviceId :=
  ids.filter fun id => !known.contains id

variable {w w' : Wizard} {id : DeviceId} {ids : List DeviceId} {answers : List DeviceAnswer}

theorem loadDevices_ensures (ids : List DeviceId) (known : DevicesById) :
    (loadDevices ids known).Ensures fun exchanges known' =>
      ∃ answers : List DeviceAnswer, answeredCalls exchanges = answers.map DeviceAnswer.call ∧
        answers.map Prod.fst = ids ∧ known' = answers.foldl DeviceAnswer.learned known := by
  induction ids generalizing known with
  | nil => exact ⟨[], rfl, rfl, rfl⟩
  | cons id rest ih =>
    intro answer
    cases answer with
    | ok record =>
      refine (ih (known.insert record.id record.attributes)).imp ?_
      rintro exchanges _ ⟨answers, calls, rfl, rfl⟩
      exact ⟨(id, .ok record) :: answers, congrArg (_ :: ·) calls, rfl, rfl⟩
    | error e =>
      intro _
      refine (ih known).imp ?_
      rintro exchanges _ ⟨answers, calls, rfl, rfl⟩
      exact ⟨(id, .error e) :: answers, congrArg (_ :: ·) calls, rfl, rfl⟩

/-- The wizard with so many answers learned; nothing is derived yet. -/
def informed (w : Wizard) (answers : List DeviceAnswer) : Wizard :=
  { w with
    fleet := { w.fleet with devices := answers.foldl DeviceAnswer.learned w.fleet.devices } }

theorem loadSelectedDevices_ensures (target : w.selection.target = .devices ids) :
    w.loadSelectedDevices.Ensures fun exchanges w' =>
      ∃ answers : List DeviceAnswer, answeredCalls exchanges = answers.map DeviceAnswer.call ∧
        answers.map Prod.fst = unknown w.fleet.devices ids ∧ w' = (w.informed answers).settled := by
  simp only [loadSelectedDevices, target]
  refine Dialogue.ensures_bind.mpr ((loadDevices_ensures _ _).imp ?_)
  rintro first _ ⟨answers, calls, asked, rfl⟩
  refine (settle_ensures _).imp ?_
  rintro last _ ⟨silent, rfl⟩
  refine ⟨answers, ?_, asked, rfl⟩
  rw [answeredCalls_append, silent, List.append_nil, calls]

/-- Devices that are not asked for one by one are not loaded. -/
theorem loadSelectedDevices_eq_done (target : ∀ ids, w.selection.target ≠ .devices ids) :
    w.loadSelectedDevices = .done w := by
  unfold loadSelectedDevices
  split
  · rename_i ids picked
    exact absurd picked (target ids)
  · rfl

theorem get?_learned {answer : DeviceAnswer} (own : OwnIds [answer]) (known : DevicesById)
    (id : DeviceId) :
    (answer.learned known).get? id = (answer.attributesOf? id).or (known.get? id) := by
  obtain ⟨asked, _ | record⟩ := answer
  · rfl
  · obtain rfl : record.id = asked := own asked record List.mem_cons_self
    rw [DeviceAnswer.learned, Dict.get?_insert, DeviceAnswer.attributesOf?]
    split <;> rfl

theorem lastTold?_cons (id : DeviceId) (answer : DeviceAnswer) (rest : List DeviceAnswer) :
    lastTold? id (answer :: rest) = (lastTold? id rest).or (answer.attributesOf? id) := by
  unfold lastTold?
  cases told : answer.attributesOf? id with
  | none => rw [List.filterMap_cons_none told, Option.or_none]
  | some attributes => rw [List.filterMap_cons_some told, List.getLast?_cons, Option.or_some]

/-- After all answers a device has the attributes that the last one told of it, or else those that
were known before. -/
theorem get?_foldl_learned (own : OwnIds answers) (known : DevicesById) (id : DeviceId) :
    (answers.foldl DeviceAnswer.learned known).get? id =
      (lastTold? id answers).or (known.get? id) := by
  induction answers generalizing known with
  | nil => rfl
  | cons answer rest ih =>
    have first : OwnIds [answer] := by
      intro id record found
      exact own id record (List.mem_cons.mpr (.inl (List.mem_singleton.mp found)))
    have later : OwnIds rest := fun id record found => own id record (List.mem_cons_of_mem _ found)
    rw [List.foldl_cons, ih later, get?_learned first, lastTold?_cons, Option.or_assoc]

theorem lastTold?_of_unasked (unasked : id ∉ answers.map Prod.fst) : lastTold? id answers = none := by
  have untold : answers.filterMap (DeviceAnswer.attributesOf? id) = [] := by
    rw [List.filterMap_eq_nil_iff]
    rintro ⟨asked, _ | record⟩ found
    · rfl
    · refine if_neg ?_
      rintro rfl
      exact unasked (List.mem_map_of_mem found)
  rw [lastTold?, untold, List.getLast?_nil]

theorem mem_unknown {known : DevicesById} :
    id ∈ unknown known ids ↔ id ∈ ids ∧ known.get? id = none := by
  simp [unknown, Dict.contains]

/-- Only the records are derived anew: ids, count and filter do not depend on what is known of the
devices. -/
theorem InLine.informed_settled (inLine : InLine w) (target : w.selection.target = .devices ids)
    (answers : List DeviceAnswer) :
    (w.informed answers).settled =
      { w.informed answers with
        selection :=
          { w.selection with
            resolvedDevices := ids.map (DeviceRecord.join · (w.informed answers).fleet.devices) } } := by
  have pending : w.pending = none := inLine.pending_eq_none (by rw [target]; rfl)
  have count : ((w.informed answers).fleet.count? (.devices ids)).getD
      w.selection.resolvedDeviceCount = w.selection.resolvedDeviceCount := by
    cases ids with
    | nil => rfl
    | cons first rest => exact (inLine.count _ (by rw [target]; rfl)).symm
  have filterId : w.selection.resolvedFilterId = none := by rw [inLine.filterId, target]; rfl
  have derived : w.selection.resolvedDeviceIds = ids := by rw [inLine.ids, target]; rfl
  have missing : (w.informed answers).fleet.missing? (w.informed answers).selection.target = none := by
    rw [informed, target]
    rfl
  rw [settled_of_missing_none missing, resolved, Selection.resolve_selection]
  simp only [informed, target] at count ⊢
  simp [count, filterId, derived, pending, Target.ids, Fleet.filterId?]

/-- What loading the picked devices comes to, by the answers for those that were not known. -/
structure Loads (w : Wizard) (ids : List DeviceId) (answers : List DeviceAnswer) (w' : Wizard) :
    Prop where
  kept : ∀ id attributes, w.fleet.devices.get? id = some attributes →
    w'.fleet.devices.get? id = some attributes
  told : ∀ id ∈ ids, w.fleet.devices.get? id = none →
    w'.fleet.devices.get? id = lastTold? id answers
  others : ∀ id, id ∉ ids → w'.fleet.devices.get? id = w.fleet.devices.get? id
  records : w'.selection.resolvedDevices =
    ids.map fun id => ⟨id, (w'.fleet.devices.get? id).getD .empty⟩
  /-- The ids and the count of the selection stay, and so does all else. -/
  rest : w' =
    { w with
      fleet := { w.fleet with devices := w'.fleet.devices }
      selection := { w.selection with resolvedDevices := w'.selection.resolvedDevices } }

theorem InLine.loads (inLine : InLine w) (target : w.selection.target = .devices ids)
    (asked : answers.map Prod.fst = unknown w.fleet.devices ids) (own : OwnIds answers) :
    Loads w ids answers (w.informed answers).settled := by
  have found (id : DeviceId) : (w.informed answers).settled.fleet.devices.get? id =
      (lastTold? id answers).or (w.fleet.devices.get? id) := by
    rw [settled_fleet]
    exact get?_foldl_learned own w.fleet.devices id
  have untold (id : DeviceId) (other : id ∉ unknown w.fleet.devices ids) :
      (w.informed answers).settled.fleet.devices.get? id = w.fleet.devices.get? id := by
    rw [found, lastTold?_of_unasked (asked ▸ other), Option.none_or]
  have settles := inLine.informed_settled target answers
  constructor
  · intro id attributes known
    rw [untold id, known]
    rw [mem_unknown, known]
    nofun
  · intro id _ missing
    rw [found, missing, Option.or_none]
  · intro id other
    refine untold id ?_
    rw [mem_unknown]
    exact fun unknown => other unknown.1
  · rw [settles]
    rfl
  · rw [settles]
    rfl

/-- What is still unknown was asked for in vain. -/
theorem Loads.unknown_eq (loads : Loads w ids answers w')
    (asked : answers.map Prod.fst = unknown w.fleet.devices ids) :
    unknown w'.fleet.devices ids =
      (answers.map Prod.fst).filter fun id => (lastTold? id answers).isNone := by
  rw [asked, unknown, unknown, List.filter_filter]
  refine List.filter_congr fun id picked => ?_
  cases known : w.fleet.devices.get? id with
  | none => simp [Dict.contains, known, loads.told id picked known]
  | some attributes => simp [Dict.contains, known, loads.kept id attributes known]

/-- Loading asks for the picked devices that are not known, and for nothing else. If the answers carry
the ids that were asked for, then each of these devices is known by its last successful answer, or
still unknown if there is none; everything else stays, and the records follow. A second time only
those are asked for that are still unknown. Without devices that are picked one by one there is
nothing to load. -/
theorem loading_fills_in_unknown_devices (reachable : Reachable w) :
    (∀ ids, w.selection.target = .devices ids →
      ∀ exchanges w', w.loadSelectedDevices.Runs exchanges w' →
        ∃ answers : List DeviceAnswer, answeredCalls exchanges = answers.map DeviceAnswer.call ∧
          answers.map Prod.fst = unknown w.fleet.devices ids ∧
          (OwnIds answers → Loads w ids answers w' ∧
            ∀ later w'', w'.loadSelectedDevices.Runs later w'' →
              ∃ again : List DeviceAnswer, answeredCalls later = again.map DeviceAnswer.call ∧
                again.map Prod.fst =
                  (answers.map Prod.fst).filter fun id => (lastTold? id answers).isNone)) ∧
    ((∀ ids, w.selection.target ≠ .devices ids) → w.loadSelectedDevices = .done w) := by
  refine ⟨?_, loadSelectedDevices_eq_done⟩
  intro ids target exchanges w' runs
  obtain ⟨answers, calls, asked, rfl⟩ :=
    Dialogue.ensures_iff.mp (loadSelectedDevices_ensures target) _ _ runs
  refine ⟨answers, calls, asked, fun own => ?_⟩
  have loads := reachable.inLine.loads target asked own
  refine ⟨loads, fun later w'' runs' => ?_⟩
  have target' : (w.informed answers).settled.selection.target = .devices ids := by
    rw [settled_target]
    exact target
  obtain ⟨again, calls', asked', _⟩ :=
    Dialogue.ensures_iff.mp (loadSelectedDevices_ensures target') _ _ runs'
  exact ⟨again, calls', asked'.trans (loads.unknown_eq asked)⟩

theorem loadDevices_runs (answers : List DeviceAnswer) (known : DevicesById) :
    ∃ exchanges, (loadDevices (answers.map Prod.fst) known).Runs exchanges
        (answers.foldl DeviceAnswer.learned known) ∧
      answeredCalls exchanges = answers.map DeviceAnswer.call := by
  induction answers generalizing known with
  | nil => exact ⟨[], .done known, rfl⟩
  | cons answer rest ih =>
    obtain ⟨id, e | record⟩ := answer
    · obtain ⟨exchanges, runs, calls⟩ := ih known
      refine ⟨⟨.call (.device id), .error e⟩ ::
        ⟨.log ⟨.warn, "Unable to load device " ++ id ++ ": " ++ e.message⟩, ()⟩ :: exchanges,
        ?_, congrArg (_ :: ·) calls⟩
      simp only [List.map_cons, loadDevices, call, log]
      exact .ask _ (.ask _ runs)
    · obtain ⟨exchanges, runs, calls⟩ := ih (known.insert record.id record.attributes)
      refine ⟨⟨.call (.device id), .ok record⟩ :: exchanges, ?_, congrArg (_ :: ·) calls⟩
      simp only [List.map_cons, loadDevices, call]
      exact .ask _ runs

theorem loadSelectedDevices_runs (target : w.selection.target = .devices ids)
    (asked : answers.map Prod.fst = unknown w.fleet.devices ids) :
    ∃ exchanges, w.loadSelectedDevices.Runs exchanges (w.informed answers).settled ∧
      answeredCalls exchanges = answers.map DeviceAnswer.call := by
  obtain ⟨first, loaded, calls⟩ := loadDevices_runs answers w.fleet.devices
  obtain ⟨last, settles⟩ := World.runs_run {} (settle (w.informed answers))
  obtain ⟨silent, same⟩ :=
    Dialogue.ensures_iff.mp (settle_ensures (w.informed answers)) _ _ settles
  rw [same] at settles
  rw [asked] at loaded
  refine ⟨first ++ last, ?_, by rw [answeredCalls_append, silent, calls, List.append_nil]⟩
  simp only [loadSelectedDevices, target]
  exact Dialogue.runs_bind.mpr ⟨first, _, last, loaded, settles, rfl⟩

/-- A wizard that knows one of the devices that were picked; another one was picked twice. -/
@[irreducible] def picked : Wizard :=
  World.play {} (new {})
    [.open, .setDevices (.ofList [("b", .ofList [("site", .str "lab")])]),
      .selectTarget (.devices ["a", "b", "a", "c"])]

/-- The device that was picked twice is told at the second attempt, the last one not at all. -/
def partlyTold : List DeviceAnswer :=
  [("a", .error (.http .unreachable)), ("a", .ok ⟨"a", .ofList [("site", .str "attic")]⟩),
    ("c", .error (.notFound (.other "c")))]

theorem ownIds_partlyTold : OwnIds partlyTold := by
  intro id record found
  simp [partlyTold] at found
  rw [found.1, found.2]

theorem loading_fills_in_unknown_devices_partly :
    Reachable picked ∧ ∃ exchanges w', picked.loadSelectedDevices.Runs exchanges w' ∧
      answeredCalls exchanges = partlyTold.map DeviceAnswer.call ∧
      w'.selection.resolvedDevices =
        [⟨"a", .ofList [("site", .str "attic")]⟩, ⟨"b", .ofList [("site", .str "lab")]⟩,
          ⟨"a", .ofList [("site", .str "attic")]⟩, ⟨"c", .empty⟩] ∧
      ∀ later w'', w'.loadSelectedDevices.Runs later w'' →
        ∃ answer, answeredCalls later = [⟨.device "c", answer⟩] := by
  have reachable : Reachable picked := by
    unfold picked
    exact World.reachable_play _ _ _
  have target : picked.selection.target = .devices ["a", "b", "a", "c"] := by decide +kernel
  have known : picked.fleet.devices = .ofList [("b", .ofList [("site", .str "lab")])] := by
    unfold picked
    rfl
  have asked : partlyTold.map Prod.fst = unknown picked.fleet.devices ["a", "b", "a", "c"] := by
    rw [known]
    decide +kernel
  obtain ⟨exchanges, runs, calls⟩ := loadSelectedDevices_runs target asked
  obtain ⟨answers, calls', _, loads⟩ :=
    (loading_fills_in_unknown_devices reachable).1 _ target exchanges _ runs
  obtain rfl : answers = partlyTold :=
    (List.map_inj_right fun _ _ same => DeviceAnswer.call_injective same).mp (calls'.symm.trans calls)
  obtain ⟨loaded, again⟩ := loads ownIds_partlyTold
  have attic := loaded.told "a" (by decide) (by rw [known]; rfl)
  have untold := loaded.told "c" (by decide) (by rw [known]; rfl)
  have lab := loaded.kept "b" (.ofList [("site", .str "lab")]) (by rw [known]; rfl)
  refine ⟨reachable, exchanges, _, runs, calls, ?_, ?_⟩
  · rw [loaded.records]
    simp only [List.map_cons, List.map_nil, attic, untold, lab]
    rfl
  · intro later w'' runs'
    obtain ⟨answers, calls'', asked''⟩ := again later w'' runs'
    have only : answers.map Prod.fst = ["c"] := asked''.trans (by decide +kernel)
    obtain ⟨⟨id, answer⟩, rfl, rfl⟩ := List.map_eq_singleton_iff.mp only
    exact ⟨answer, calls''⟩

end FleetRollout.Wizard
