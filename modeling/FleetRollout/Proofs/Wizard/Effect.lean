import FleetRollout.Proofs.Wizard.Submission
import FleetRollout.Wizard.Operation

/-! What each operation does, whatever the management API answers: its reply, and the wizard that it
leaves. No later proof opens the program of an operation to follow the wizard. -/
namespace FleetRollout.Wizard

/-- What the plain choices do to the selection of an open wizard. -/
def Operation.choice? : Operation → Option (Selection → Selection)
  | .setRetries retries => some fun s => { s with retries := retries }
  | .setSaveRetriesDefault save => some fun s => { s with saveRetriesDefault := save }
  | .setForceInstall force => some fun s => { s with forceInstall := force }
  | .setDelta delta => some fun s => { s with delta := delta }
  | .setMaxDevices limit => some fun s => { s with maxDevices := limit }
  | .setUpdateControlMap controlMap => some fun s => { s with updateControlMap := controlMap }
  | _ => none

/-- The reply of an operation, and the wizard after it. -/
inductive Effect (w : Wizard) : Operation → Reply → Wizard → Prop where
  /-- What is refused changes nothing. -/
  | refused {operation : Operation} {e : DeployError} : Effect w operation (.failed e) w
  | opened {lifecycle : Lifecycle} {releases : List String} {accepted : UInt64}
      {groups : Dict GroupInfo} {hasDelta : Bool}
      (opening : w.lifecycle.process .open = .ok lifecycle) :
      Effect w .open .done (w.restarted lifecycle releases accepted groups hasDelta).settled
  | closed {lifecycle : Lifecycle} (closing : w.lifecycle.process .close = .ok lifecycle) :
      Effect w .close .done { w with lifecycle := lifecycle, selection := {}, pending := none }
  | released {name : String} (editable : w.lifecycle.isEditable)
      (offered : w.releases = [] ∨ name ∈ w.releases) :
      Effect w (.selectRelease name) .done
        { w with selection := { w.selection with release := some ⟨name⟩ } }
  | targeted {target : Target} {w' : Wizard} (editable : w.lifecycle.isEditable)
      (available : target.mode = some .savedFilter → w.options.hasFullFiltering)
      (settles : w' = { w with selection := w.selection.setTarget target }.settled) :
      Effect w (.selectTarget target) (.ticket w'.pending) w'
  | phased {phases : Option (List Phase)} (editable : w.lifecycle.isEditable)
      (available : phases.any (fun ps => !ps.isEmpty) → w.options.canSchedule) :
      Effect w (.setPhases phases) .done
        { w with selection := { w.selection with phases := phases } }
  | rephased {phases : List Phase} (editable : w.lifecycle.isEditable)
      (saved : w.options.previousPhases = some phases) (nonempty : phases ≠ [])
      (available : w.options.canSchedule) :
      Effect w .usePreviousPhases .done
        { w with selection := { w.selection with phases := some phases } }
  | chosen {operation : Operation} {choice : Selection → Selection}
      (editable : w.lifecycle.isEditable) (plain : operation.choice? = some choice) :
      Effect w operation .done { w with selection := choice w.selection }
  | accepted {total : UInt64} {w' : Wizard}
      (settles : w' = { w with fleet := { w.fleet with accepted := total } }.settled) :
      Effect w (.setAccepted total) (.ticket w'.pending) w'
  | devices {known : DevicesById} {w' : Wizard}
      (settles : w' = { w with fleet := { w.fleet with devices := known } }.settled) :
      Effect w (.setDevices known) (.ticket w'.pending) w'
  /-- Counts of groups that are gone are forgotten. -/
  | groups {groups : List GroupInfo} {w' : Wizard}
      (settles : w' = { w with fleet := { w.fleet with
        groups := GroupInfo.byName groups
        counts := w.fleet.counts.retain (GroupInfo.byName groups).contains } }.settled) :
      Effect w (.setGroups groups) (.ticket w'.pending) w'
  | loaded {ids : List DeviceId} {known : DevicesById}
      (target : w.selection.target = .devices ids) :
      Effect w .loadSelectedDevices .done
        { w with fleet := { w.fleet with devices := known } }.settled
  | notLoaded (target : ∀ ids, w.selection.target ≠ .devices ids) :
      Effect w .loadSelectedDevices .done w
  /-- The count that was waited for has arrived. -/
  | counted {ticket : Ticket} {total : UInt64} (current : w.isCurrent ticket) :
      Effect w (.completeCount ticket (.ok total)) (.applied true)
        (w.withCount ticket.group total).settled
  | notCounted {ticket : Ticket} {result : Except DeployError UInt64} :
      Effect w (.completeCount ticket result) (.applied false) w
  | refreshed {ticket : Ticket} {total : UInt64} (current : w.isCurrent ticket) :
      Effect w .refreshCount (.applied true) (w.withCount ticket.group total).settled
  | notRefreshed : Effect w .refreshCount (.applied false) w
  | unsent {confirmed : Bool} {clock : Readings} {outcome : Except DeployError Outcome}
      (refusal : w.refusal? confirmed clock = some outcome) :
      Effect w (.submit confirmed clock) (.ofOutcome outcome) w
  | sent {confirmed : Bool} {clock : Readings} {request : DeploymentRequest}
      (answer : Except DeployError CreatedDeployment)
      (unrefused : w.refusal? confirmed clock = none)
      (made : w.selection.request w.flags clock.request = .ok request) :
      Effect w (.submit confirmed clock) (.ofOutcome (w.concluded answer).1) (w.concluded answer).2

@[simp] theorem always_call {c : Call} {P : Except DeployError c.Answer → Prop} :
    (call c).Always P ↔ ∀ answer, P answer := Iff.rfl

@[simp] theorem always_log {P : Unit → Prop} : (log level message).Always P ↔ P () :=
  ⟨fun h => h (), fun h _ => h⟩

@[simp] theorem always_advance {P : Unit → Prop} : (advance step).Always P ↔ P () :=
  ⟨fun h => h (), fun h _ => h⟩

@[simp] theorem always_logAll {P : Unit → Prop} : (logAll entries).Always P ↔ P () := by
  induction entries with
  | nil => rfl
  | cons e rest ih => simp [logAll, Dialogue.always_bind, ih]

@[simp] theorem always_settle {P : Wizard → Prop} : (settle w).Always P ↔ P w.settled := by
  simp [settle, Dialogue.always_bind]

/-- What a call gives is some answer, be it the substitute. -/
theorem always_callOr {c : Call} {substitute : c.Answer} {P : c.Answer → Prop}
    (any : ∀ answer, P answer) : (callOr c level complaint substitute).Always P := by
  simp only [callOr, Dialogue.always_bind, always_call]
  intro answer
  cases answer with
  | ok answer => exact any answer
  | error e => simpa [Dialogue.always_bind] using any substitute

variable {w : Wizard}

theorem loadFilters_always {P : List SavedFilter → Prop} (any : ∀ filters, P filters)
    (w : Wizard) : w.loadFilters.Always P := by
  unfold loadFilters
  split
  · exact always_callOr any
  · exact any []

theorem open_effect (w : Wizard) :
    w.open.Always fun r => Effect w .open (.ofUnit r.1) r.2 := by
  unfold Wizard.open
  split
  · exact .refused
  · rename_i lifecycle opening
    refine Dialogue.always_bind.mpr (always_log.mpr ?_)
    refine Dialogue.always_bind.mpr (always_callOr fun releases => ?_)
    refine Dialogue.always_bind.mpr (always_callOr fun accepted => ?_)
    refine Dialogue.always_bind.mpr (always_callOr fun names => ?_)
    refine Dialogue.always_bind.mpr (loadFilters_always (fun filters => ?_) w)
    refine Dialogue.always_bind.mpr (always_callOr fun config => ?_)
    exact Dialogue.always_bind.mpr (always_settle.mpr (.opened opening))

theorem Edited.effect {operation : Operation} {through : Prop} {w' : Wizard}
    {r : Except DeployError Unit × Wizard} (edited : Edited w through w' r)
    (done : through → Effect w operation .done w') : Effect w operation (.ofUnit r.1) r.2 := by
  by_cases lets : through
  · rw [edited.done lets]
    exact done lets
  · obtain ⟨e, refused⟩ := edited.refused lets
    rw [refused]
    exact .refused

theorem choose_effect {operation : Operation} {choice : Selection → Selection}
    (plain : operation.choice? = some choice) :
    Effect w operation (.ofUnit (w.choose choice).1) (w.choose choice).2 :=
  (choose_edited w choice).effect fun editable => .chosen editable plain

theorem close_effect (w : Wizard) : Effect w .close (.ofUnit w.close.1) w.close.2 := by
  obtain ⟨e, refused⟩ | ⟨lifecycle, closing, closed⟩ := close_cases w
  · rw [refused]
    exact .refused
  · rw [closed]
    exact .closed closing

theorem setPhases_effect (w : Wizard) (phases : Option (List Phase)) :
    Effect w (.setPhases phases) (.ofUnit (w.setPhases phases).1) (w.setPhases phases).2 :=
  (setPhases_edited w phases).effect fun ⟨editable, available⟩ => .phased editable available

theorem usePreviousPhases_effect (w : Wizard) :
    Effect w .usePreviousPhases (.ofUnit w.usePreviousPhases.1) w.usePreviousPhases.2 := by
  obtain missing | ⟨phases, saved, nonempty, set⟩ := usePreviousPhases_cases w
  · rw [missing]
    exact .refused
  · rw [set]
    refine (setPhases_edited w (some phases)).effect fun ⟨editable, available⟩ => ?_
    exact .rephased editable saved nonempty (available (by simpa using nonempty))

theorem selectRelease_effect (w : Wizard) (name : String) :
    (w.selectRelease name).Always fun r => Effect w (.selectRelease name) (.ofUnit r.1) r.2 := by
  have edited := pickRelease_edited w name
  unfold selectRelease
  by_cases lets : w.lifecycle.isEditable = true ∧ (w.releases = [] ∨ name ∈ w.releases)
  · rw [edited.done lets]
    exact fun _ => .released lets.1 lets.2
  · obtain ⟨e, refused⟩ := edited.refused lets
    rw [refused]
    exact .refused

theorem selectTarget_effect (w : Wizard) (target : Target) :
    (w.selectTarget target).Always fun r =>
      Effect w (.selectTarget target) (.ofTicket r.1) r.2 := by
  have edited := pickTarget_edited w target
  unfold selectTarget
  by_cases lets : w.lifecycle.isEditable = true ∧
      (target.mode = some .savedFilter → w.options.hasFullFiltering = true)
  · rw [edited.done lets]
    have settled := Effect.targeted lets.1 lets.2 rfl
    by_cases all : target = .allDevices <;>
      simpa [Dialogue.always_bind, all, Reply.ofTicket] using settled
  · obtain ⟨e, refused⟩ := edited.refused lets
    rw [refused]
    exact .refused

theorem loadDevices_always {P : DevicesById → Prop} (any : ∀ known, P known) (ids : List DeviceId)
    (known : DevicesById) : (loadDevices ids known).Always P := by
  induction ids generalizing known with
  | nil => exact any known
  | cons id rest ih =>
    simp only [loadDevices, Dialogue.always_bind]
    intro answer
    cases answer with
    | ok record => exact ih _
    | error e => simpa [Dialogue.always_bind] using ih known

theorem loadSelectedDevices_effect (w : Wizard) :
    w.loadSelectedDevices.Always fun w' => Effect w .loadSelectedDevices .done w' := by
  unfold loadSelectedDevices
  split
  · rename_i ids target
    refine Dialogue.always_bind.mpr (loadDevices_always (fun known => ?_) _ _)
    exact always_settle.mpr (.loaded target)
  · rename_i other
    exact .notLoaded other

theorem isCurrent_eq_true {ticket : Ticket} :
    w.isCurrent ticket = true ↔
      w.pending = some ticket ∧ w.selection.target = .group ticket.group := by
  simp [isCurrent]

/-- A count is taken over exactly if it arrives for the current ticket; any other answer changes
nothing. -/
theorem completeCount_always {ticket : Ticket} {result : Except DeployError UInt64}
    {P : Bool × Wizard → Prop}
    (taken : ∀ total, w.isCurrent ticket = true → result = .ok total →
      P (true, (w.withCount ticket.group total).settled))
    (dropped : w.isCurrent ticket = false ∨ (∃ e, result = .error e) → P (false, w)) :
    (w.completeCount ticket result).Always P := by
  unfold completeCount
  split
  · rename_i current
    cases result with
    | ok total => simpa [Dialogue.always_bind] using taken total current rfl
    | error e => simpa [Dialogue.always_bind] using dropped (.inr ⟨e, rfl⟩)
  · rename_i stale
    simpa [Dialogue.always_bind] using dropped (.inl (by simpa using stale))

theorem completeCount_effect (w : Wizard) (ticket : Ticket) (result : Except DeployError UInt64) :
    (w.completeCount ticket result).Always fun r =>
      Effect w (.completeCount ticket result) (.applied r.1) r.2 := by
  refine completeCount_always (fun total current arrived => ?_) (fun _ => .notCounted)
  rw [arrived]
  exact .counted current

theorem refreshCount_effect (w : Wizard) :
    w.refreshCount.Always fun r => Effect w .refreshCount (.applied r.1) r.2 := by
  unfold refreshCount
  split
  · exact .notRefreshed
  · refine Dialogue.always_bind.mpr fun answer => completeCount_always ?_ ?_
    · exact fun total current _ => .refreshed current
    · exact fun _ => .notRefreshed

theorem submit_effect (w : Wizard) (confirmed : Bool) (clock : Readings) :
    (w.submit confirmed clock).Always fun r =>
      Effect w (.submit confirmed clock) (.ofOutcome r.1) r.2 := by
  refine Dialogue.always_iff.mpr fun exchanges r runs => ?_
  have ended := Dialogue.ensures_iff.mp (submit_ensures_refusal? w confirmed clock) _ _ runs
  cases refusal : w.refusal? confirmed clock with
  | some outcome =>
    simp only [refusal] at ended
    obtain ⟨_, rfl⟩ := ended
    exact .unsent refusal
  | none =>
    simp only [refusal] at ended
    obtain ⟨request, answer, made, _, rfl⟩ := ended
    exact .sent answer refusal made

/-- Whatever is answered, an operation does one of the listed things. -/
theorem perform_effect (w : Wizard) (operation : Operation) :
    (w.perform operation).Always fun r => Effect w operation r.1 r.2 := by
  have mapped {β : Type} {p : Program (β × Wizard)} {reply : β → Reply}
      (effects : p.Always fun r => Effect w operation (reply r.1) r.2) :
      (p >>= fun r => return r.map reply id).Always fun r => Effect w operation r.1 r.2 :=
    Dialogue.always_bind.mpr (effects.imp fun _ effect => by simpa using effect)
  have updated {fleet : Fleet}
      (effect : Effect w operation (.ticket { w with fleet := fleet }.settled.pending)
        { w with fleet := fleet }.settled) :
      (w.updateFleet fleet).Always fun r => Effect w operation (.ticket r.1) r.2 :=
    Dialogue.always_bind.mpr (always_settle.mpr (by simpa using effect))
  cases operation with
  | «open» => exact mapped (open_effect w)
  | close => exact close_effect w
  | selectRelease name => exact mapped (selectRelease_effect w name)
  | selectTarget target => exact mapped (selectTarget_effect w target)
  | setPhases phases => exact setPhases_effect w phases
  | usePreviousPhases => exact usePreviousPhases_effect w
  | setRetries retries => exact choose_effect rfl
  | setSaveRetriesDefault save => exact choose_effect rfl
  | setForceInstall force => exact choose_effect rfl
  | setDelta delta => exact choose_effect rfl
  | setMaxDevices limit => exact choose_effect rfl
  | setUpdateControlMap controlMap => exact choose_effect rfl
  | setAccepted total => exact mapped (updated (.accepted rfl))
  | setDevices devices => exact mapped (updated (.devices rfl))
  | setGroups groups => exact mapped (updated (.groups rfl))
  | loadSelectedDevices => exact Dialogue.always_bind.mpr (loadSelectedDevices_effect w)
  | completeCount ticket result => exact mapped (completeCount_effect w ticket result)
  | refreshCount => exact mapped (refreshCount_effect w)
  | submit confirmed clock => exact mapped (submit_effect w confirmed clock)

end FleetRollout.Wizard
