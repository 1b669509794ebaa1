import FleetRollout.Proofs.Fleet.GroupCounts
import FleetRollout.Proofs.Wizard.Capabilities
import FleetRollout.Proofs.Wizard.Resting

/-! Opening starts over. An opened wizard is made of its options and of what the management API
answered; of the time before, it keeps the device attributes that it knows and its counters. -/
namespace FleetRollout.Wizard
variable {w w' : Wizard} {operation : Operation} {reply : Reply} {turns : List Turn}

def Opening.listed (o : Opening) : List String := o.groups.toOption.getD []

def lastNamed? (filters : List SavedFilter) (name : String) : Option SavedFilter :=
  filters.reverse.find? fun f => f.name = name

theorem lastNamed?_eq_some {filters : List SavedFilter} {name : String} {f : SavedFilter}
    (last : lastNamed? filters name = some f) : f.name = name := by
  have named := List.find?_some last
  simpa using named

theorem lastNamed?_isSome {filters : List SavedFilter} {name : String} :
    (lastNamed? filters name).isSome = true ↔ ∃ f ∈ filters, f.name = name := by
  simp [lastNamed?]

/-- A group is known from the filters, or else from the list. -/
theorem get?_knownGroups (names : List String) (filters : List SavedFilter) (name : String) :
    (Wizard.knownGroups names filters).get? name =
      match lastNamed? filters name with
      | some f => some ⟨name, some f.id⟩
      | none => if name ∈ names then some ⟨name, none⟩ else none := by
  rw [Wizard.knownGroups, Dict.get?_ofList, List.reverse_append, Dict.lookup_append,
    ← List.map_reverse, ← List.map_reverse, Dict.lookup_map, Dict.lookup_map]
  change ((lastNamed? filters name).map _).or _ = _
  cases last : lastNamed? filters name with
  | some f => simp [lastNamed?_eq_some last]
  | none =>
    cases found : names.reverse.find? (· = name) with
    | some other =>
      obtain rfl : other = name := by simpa using List.find?_some found
      have member : other ∈ names := by simpa using List.mem_of_find?_eq_some found
      simp [member]
    | none =>
      have absent : name ∉ names := by
        intro member
        have differs := List.find?_eq_none.mp found name (List.mem_reverse.mpr member)
        simp at differs
      simp [absent]

namespace Opening
variable (o : Opening) (options : Options)

theorem lastNamed?_isSome (name : String) :
    (lastNamed? (o.knownFilters options) name).isSome = true ↔
      options.hasFullFiltering = true ∧ ∃ f ∈ o.filters.toOption.getD [], f.name = name := by
  rw [Wizard.lastNamed?_isSome, knownFilters]
  cases full : options.hasFullFiltering <;> simp

theorem contains_knownGroups (name : String) :
    (o.knownGroups options).contains name = true ↔
      name ∈ o.listed ∨
        options.hasFullFiltering = true ∧ ∃ f ∈ o.filters.toOption.getD [], f.name = name := by
  rw [← o.lastNamed?_isSome options name]
  change ((Wizard.knownGroups o.listed (o.knownFilters options)).get? name).isSome = true ↔ _
  rw [get?_knownGroups]
  cases lastNamed? (o.knownFilters options) name <;> simp

/-- The last filter of its name is behind a group, if there is one. -/
theorem get?_knownGroups_eq_some {name : String} {info : GroupInfo}
    (found : (o.knownGroups options).get? name = some info) :
    info.name = name ∧
      info.filterId = (lastNamed? (o.knownFilters options) name).map SavedFilter.id ∧
      (info.filterId.isSome = true ↔
        options.hasFullFiltering = true ∧ ∃ f ∈ o.filters.toOption.getD [], f.name = name) := by
  change (Wizard.knownGroups o.listed (o.knownFilters options)).get? name = some info at found
  have parts : info.name = name ∧
      info.filterId = (lastNamed? (o.knownFilters options) name).map SavedFilter.id := by
    rw [get?_knownGroups] at found
    split at found
    · rename_i f last
      obtain rfl := Option.some.inj found
      exact ⟨rfl, by rw [last]; rfl⟩
    · rename_i none
      obtain ⟨_, same⟩ := Option.ite_none_right_eq_some.mp found
      obtain rfl := Option.some.inj same
      exact ⟨rfl, by rw [none]; rfl⟩
  obtain ⟨named, id⟩ := parts
  refine ⟨named, id, ?_⟩
  rw [id, Option.isSome_map]
  exact o.lastNamed?_isSome options name

theorem calls_fst (other : Opening) :
    (o.calls options).map Sigma.fst = (other.calls options).map Sigma.fst := by
  unfold calls filterCalls
  split <;> rfl

theorem not_creation {a : AnsweredCall} (asked : a ∈ o.calls options) :
    ∀ request, a.1 ≠ .createDeployment request := by
  obtain ⟨c, answer⟩ := a
  rintro request rfl
  unfold calls filterCalls at asked
  split at asked <;> simp at asked

end Opening

theorem Effect.capacity (effect : Effect w operation reply w') :
    w'.fleet.counts.capacity = w.fleet.counts.capacity := by
  cases effect with
  | opened => simp [restarted, GroupCounts.clear]
  | targeted editable available settles => simp [settles]
  | accepted settles | devices settles => simp [settles]
  | groups settles => simp [settles, GroupCounts.retain]
  | loaded => simp
  | counted | refreshed => simp [withCount, GroupCounts.insert]
  | sent answer => cases answer <;> rfl
  | _ => rfl

theorem History.capacity {options : Options} (history : History (new options) turns w) :
    w.fleet.counts.capacity = max options.groupCountCapacity.toNat 1 := by
  induction history with
  | start => rfl
  | next _ step ih =>
    cases step with
    | perform runs => exact (Step.effect (.perform runs)).capacity.trans ih
    | guard use => exact ih

theorem Reachable.capacity (reachable : Reachable w) :
    w.fleet.counts.capacity = max w.options.groupCountCapacity.toNat 1 := by
  obtain ⟨options, turns, history⟩ := reachable
  rw [history.options]
  exact history.capacity

theorem Reachable.idle (reachable : Reachable w) : w.lifecycle.stage ≠ .submitting := by
  obtain ⟨options, turns, history⟩ := reachable
  exact history.resting.idle

/-- How a wizard stands that has just been opened with some answers. -/
structure StartedOver (w : Wizard) (o : Opening) : Prop where
  lifecycle : w.lifecycle = { stage := .open, lastError := none, attempts := 0 }
  free : w.guard.inFlight = false
  selection : w.selection = { retries := w.options.defaultRetries }
  releases : w.releases = o.releases.toOption.getD []
  accepted : w.fleet.accepted = o.accepted.toOption.getD 0
  hasDelta : w.hasDelta = o.deltas
  counts : w.fleet.counts.entries = .empty
  pending : w.pending = none
  known : ∀ name, w.fleet.groups.contains name = true ↔
    name ∈ o.listed ∨
      w.options.hasFullFiltering = true ∧ ∃ f ∈ o.filters.toOption.getD [], f.name = name
  backed : ∀ name info, w.fleet.groups.get? name = some info →
    info.name = name ∧
    info.filterId = (lastNamed? (o.knownFilters w.options) name).map SavedFilter.id ∧
    (info.filterId.isSome = true ↔
      w.options.hasFullFiltering = true ∧ ∃ f ∈ o.filters.toOption.getD [], f.name = name)

/-- What outlives an opening is taken away: the attributes of devices, and how many tickets were
issued and how many counts were written. -/
def withoutPast (w : Wizard) : Wizard :=
  { w with
    fleet := { w.fleet with devices := .empty, counts := { w.fleet.counts with writes := 0 } }
    issued := 0 }

/-- Of no selection there is nothing to derive, and nothing to wait for. -/
theorem opened_eq (w : Wizard) (lifecycle : Lifecycle) (o : Opening) :
    w.opened lifecycle o =
      w.restarted lifecycle (o.releases.toOption.getD []) (o.accepted.toOption.getD 0)
        (o.knownGroups w.options) o.deltas := by
  rw [opened, settled_of_missing_none rfl]
  rfl

theorem opened_startedOver (w : Wizard) (o : Opening) :
    (w.opened { stage := .open } o).StartedOver o := by
  rw [opened_eq]
  exact ⟨rfl, rfl, rfl, rfl, rfl, rfl, rfl, rfl, o.contains_knownGroups w.options,
    fun _ _ found => o.get?_knownGroups_eq_some w.options found⟩

/-- An answer that nothing asked for leaves no trace. -/
theorem opened_congr {o other : Opening} (lifecycle : Lifecycle)
    (same : o.calls w.options = other.calls w.options) :
    w.opened lifecycle o = w.opened lifecycle other := by
  obtain ⟨releases, accepted, groups, filters, config⟩ := o
  obtain ⟨releases', accepted', groups', filters', config'⟩ := other
  unfold Opening.calls Opening.filterCalls at same
  unfold opened Opening.knownGroups Opening.knownFilters Opening.deltas
  split at same
  · simp only [List.cons_append, List.nil_append, List.cons.injEq, Sigma.mk.injEq, heq_eq_eq,
      true_and, and_true] at same
    obtain ⟨rfl, rfl, rfl, rfl, rfl⟩ := same
    rfl
  · rename_i limited
    simp only [List.append_nil, List.cons_append, List.nil_append, List.cons.injEq,
      Sigma.mk.injEq, heq_eq_eq, true_and, and_true] at same
    obtain ⟨rfl, rfl, rfl, rfl⟩ := same
    rw [if_neg limited, if_neg limited]

theorem open_runs {exchanges : List (Dialogue.Exchange interface)}
    {r : Except DeployError Unit × Wizard} (idle : w.lifecycle.stage ≠ .submitting)
    (runs : w.open.Runs exchanges r) :
    ∃ o : Opening, answeredCalls exchanges = o.calls w.options ∧
      r = (.ok (), w.opened { stage := .open } o) := by
  have ended := Dialogue.ensures_iff.mp (open_ensures w) _ _ runs
  rw [Lifecycle.process_open_eq_ok.mpr ⟨idle, rfl⟩] at ended
  exact ended

/-- The same calls with answers that agree are the same traffic. -/
theorem eq_of_agree {xs ys : List AnsweredCall} (calls : xs.map Sigma.fst = ys.map Sigma.fst)
    (agree : ∀ x ∈ xs, ∀ y ∈ ys, x.1 = y.1 → x = y) : xs = ys := by
  induction xs generalizing ys with
  | nil => exact (List.map_eq_nil_iff.mp calls.symm).symm
  | cons x rest ih =>
    obtain _ | ⟨y, others⟩ := ys
    · contradiction
    · obtain ⟨first, later⟩ := List.cons.inj calls
      have same := agree x List.mem_cons_self y List.mem_cons_self first
      rw [same, ih later]
      intro a member b other
      exact agree a (List.mem_cons_of_mem _ member) b (List.mem_cons_of_mem _ other)

/-- A fixed API answers alike whatever was created before, except to a creation. -/
theorem answer_congr (api : FixedApi) {c : Call} (created other : Nat)
    (plain : ∀ request, c ≠ .createDeployment request) :
    api.answer created c = api.answer other c := by
  have same : api.answerAccepted created c = api.answerAccepted other c := by
    cases c with
    | createDeployment request => exact absurd rfl (plain request)
    | deviceCount group => cases group <;> rfl
    | _ => rfl
  rw [FixedApi.answer, FixedApi.answer, same]

namespace World

theorem answer_api (world : World) (q : Question) : (world.answer q).2.api = world.api := by
  cases q with
  | advance step =>
    unfold answer
    split <;> rfl
  | call | log | tourIsComplete => rfl

theorem runs_answered (world : World) (p : Program α) :
    ∃ exchanges, p.Runs exchanges (world.run p).1 ∧
      ∀ a ∈ answeredCalls exchanges, ∃ created, a.2 = world.api.answer created a.1 := by
  induction p generalizing world with
  | done a => exact ⟨[], .done a, by simp [answeredCalls]⟩
  | ask q next ih =>
    obtain ⟨exchanges, rest, answered⟩ := ih (world.answer q).1 (world.answer q).2
    rw [world.answer_api q] at answered
    refine ⟨_, .ask (world.answer q).1 rest, ?_⟩
    intro a found
    cases q with
    | call c =>
      obtain rfl | later := List.mem_cons.mp found
      · exact ⟨world.created, rfl⟩
      · exact answered a later
    | log | advance | tourIsComplete => exact answered a found

end World

/-- Whatever happened to two wizards of the same options, once both are opened and the management
API gives both the same answers, they differ only in what outlives an opening. Of the number of
writes nothing is ever seen in the counts. -/
theorem open_starts_over {w₁ w₂ : Wizard} {es₁ es₂ : List (Dialogue.Exchange interface)}
    {r₁ r₂ : Except DeployError Unit × Wizard} (reachable₁ : Reachable w₁)
    (reachable₂ : Reachable w₂) (options : w₁.options = w₂.options)
    (runs₁ : w₁.open.Runs es₁ r₁) (runs₂ : w₂.open.Runs es₂ r₂)
    (agree : ∀ a ∈ answeredCalls es₁, ∀ b ∈ answeredCalls es₂, a.1 = b.1 → a = b) :
    r₁.1 = .ok () ∧ r₂.1 = .ok () ∧ r₁.2.withoutPast = r₂.2.withoutPast ∧
      (∀ changes group,
        (r₁.2.fleet.counts.after changes).get? group =
          (r₂.2.fleet.counts.after changes).get? group) ∧
      answeredCalls es₁ = answeredCalls es₂ ∧
      ∃ o : Opening, answeredCalls es₁ = o.calls w₁.options ∧
        r₁.2.StartedOver o ∧ r₂.2.StartedOver o := by
  obtain ⟨o, asked₁, rfl⟩ := open_runs reachable₁.idle runs₁
  obtain ⟨other, asked₂, rfl⟩ := open_runs reachable₂.idle runs₂
  rw [asked₁, asked₂, ← options] at agree
  have same : o.calls w₁.options = other.calls w₁.options :=
    eq_of_agree (o.calls_fst _ other) agree
  have traffic : answeredCalls es₁ = answeredCalls es₂ := by rw [asked₁, asked₂, ← options, same]
  rw [options] at same
  rw [← opened_congr { stage := .open } same]
  have over₁ := opened_startedOver w₁ o
  have over₂ := opened_startedOver w₂ o
  have capacity : w₁.fleet.counts.capacity = w₂.fleet.counts.capacity := by
    rw [reachable₁.capacity, reachable₂.capacity, options]
  refine ⟨rfl, rfl, ?_, ?_, traffic, o, asked₁, over₁, over₂⟩
  · simp only [opened_eq, withoutPast, restarted, GroupCounts.clear, Guard.reset, options, capacity]
  · intro changes group
    have same : (w₁.opened { stage := .open } o).fleet.counts.unwritten =
        (w₂.opened { stage := .open } o).fleet.counts.unwritten := by
      simp only [opened_eq, restarted, GroupCounts.clear, GroupCounts.unwritten, capacity]
    rw [← GroupCounts.get?_after_unwritten over₁.counts, same,
      GroupCounts.get?_after_unwritten over₂.counts]

/-- Two openings in one world with fixed answers are answered alike. -/
theorem World.runs_open_agree (world : World) (w₁ w₂ : Wizard)
    (idle : w₁.lifecycle.stage ≠ .submitting) :
    ∃ es₁ es₂ r₁ r₂, w₁.open.Runs es₁ r₁ ∧ w₂.open.Runs es₂ r₂ ∧
      ∀ a ∈ answeredCalls es₁, ∀ b ∈ answeredCalls es₂, a.1 = b.1 → a = b := by
  obtain ⟨es₁, runs₁, answered₁⟩ := world.runs_answered w₁.open
  obtain ⟨es₂, runs₂, answered₂⟩ := world.runs_answered w₂.open
  refine ⟨es₁, es₂, _, _, runs₁, runs₂, ?_⟩
  rintro ⟨c, answer⟩ asked ⟨_, other⟩ again rfl
  obtain ⟨o, calls, _⟩ := open_runs idle runs₁
  have plain : ∀ request, c ≠ .createDeployment request :=
    o.not_creation w₁.options (by rwa [calls] at asked)
  obtain ⟨created, same⟩ := answered₁ _ asked
  obtain ⟨later, same'⟩ := answered₂ _ again
  have unanimous : answer = other := by
    change answer = world.api.answer created c at same
    change other = world.api.answer later c at same'
    rw [same, same', answer_congr world.api created later plain]
  rw [unanimous]

def filtering : Options where
  hasFullFiltering := true

def filtered : World where
  api := { accepted := 7, releases := ["v2"], groups := ["lab", "east"]
           savedFilters := [⟨"f-1", "lab"⟩, ⟨"f-2", "north"⟩, ⟨"f-3", "lab"⟩]
           groupTotals := .ofList [("east", 4)] }

/-- A wizard that has counts and device attributes in store, and created a deployment. -/
@[irreducible] def used : Wizard :=
  filtered.play (new filtering)
    [.open, .selectRelease "v2", .selectTarget (.group "east"), .refreshCount, .setRetries 2,
      .setDevices (.ofList [("d-1", .empty)]), .submit true default]

theorem open_starts_over_used :
    ∃ es₁ es₂ r₁ r₂ o, (new filtering).open.Runs es₁ r₁ ∧ used.open.Runs es₂ r₂ ∧
      used.lifecycle.stage = .submitted ∧ used.issued = 1 ∧
      r₁.2.withoutPast = r₂.2.withoutPast ∧ answeredCalls es₂ = o.calls filtering ∧
      r₁.2.StartedOver o ∧ r₂.2.StartedOver o := by
  have reachable : Reachable used := by
    unfold used
    exact World.reachable_play _ _ _
  have fresh : Reachable (new filtering) := ⟨filtering, [], .start⟩
  have options : (new filtering).options = used.options := by decide +kernel
  have submitted : used.lifecycle.stage = .submitted := by decide +kernel
  have issued : used.issued = 1 := by decide +kernel
  obtain ⟨es₁, es₂, r₁, r₂, runs₁, runs₂, agree⟩ :=
    filtered.runs_open_agree (new filtering) used fresh.idle
  obtain ⟨_, _, same, _, traffic, o, asked, over₁, over₂⟩ :=
    open_starts_over fresh reachable options runs₁ runs₂ agree
  exact ⟨es₁, es₂, r₁, r₂, o, runs₁, runs₂, submitted, issued, same, traffic ▸ asked, over₁, over₂⟩

end FleetRollout.Wizard
