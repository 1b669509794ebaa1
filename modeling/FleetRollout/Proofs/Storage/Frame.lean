import FleetRollout.Proofs.Storage.Disk

/-! What changes on a disk and what does not. Files are changed at the place that their path names,
which does not depend on what is on the disk; directories that are made change no text. -/
namespace FleetRollout.Storage.Disk
variable {d d' : Disk} {place other : Place} {path text : String} {change : Option String → String}

/-- The place that names lead to, if they lead anywhere. -/
def destination : Place → List String → Place
  | place, [] => place
  | place, "." :: rest => destination place rest
  | place, ".." :: rest => destination place.dropLast rest
  | place, name :: rest => destination (place ++ [name]) rest

def placeOf (d : Disk) (path : String) : Place := destination (d.start path) (parts path)

theorem walk_eq_destination {start : Place} {names : List String}
    (walked : d.walk start names = .ok place) : place = destination start names := by
  induction names generalizing start with
  | nil => exact (Except.ok.inj walked).symm
  | cons name rest ih =>
    unfold walk at walked
    split at walked
    · contradiction
    · contradiction
    · split at walked
      · rename_i here
        rw [here]
        exact ih walked
      · split at walked
        · rename_i back
          rw [back]
          exact ih walked
        · rename_i further back
          rw [destination]
          · exact ih walked
          · exact further
          · exact back

/-- A text that is as it was, or was added to if that is allowed. -/
def Extends (allowed : Prop) (before after : Option String) : Prop :=
  after = before ∨ allowed ∧ ∃ more, after = some (before.getD "" ++ more)

theorem Extends.trans {allowed : Prop} {before between after : Option String}
    (first : Extends allowed before between) (second : Extends allowed between after) :
    Extends allowed before after := by
  obtain rfl | ⟨allows, more, rfl⟩ := first
  · exact second
  · obtain rfl | ⟨_, rest, rfl⟩ := second
    · exact .inr ⟨allows, more, rfl⟩
    · refine .inr ⟨allows, more ++ rest, ?_⟩
      rw [Option.getD_some, String.append_assoc]

/-- How the texts on a disk may change: at some places they may be added to, and at some they may be
replaced by others. -/
structure Changes (grown : Place → Prop) (replaced : Place → String → Prop) (d d' : Disk) :
    Prop where
  workingDirectory : d'.workingDirectory = d.workingDirectory
  texts : ∀ place, Extends (grown place) (d.text? place) (d'.text? place) ∨
    ∃ text, replaced place text ∧ Extends (grown place) (some text) (d'.text? place)

variable {grown : Place → Prop} {replaced : Place → String → Prop}

theorem Changes.refl (d : Disk) : Changes grown replaced d d := ⟨rfl, fun _ => .inl (.inl rfl)⟩

theorem Changes.placeOf (changes : Changes grown replaced d d') (path : String) :
    d'.placeOf path = d.placeOf path := by
  unfold Disk.placeOf start
  rw [changes.workingDirectory]

theorem Changes.trans {d'' : Disk} (first : Changes grown replaced d d')
    (second : Changes grown replaced d' d'') : Changes grown replaced d d'' := by
  refine ⟨second.workingDirectory.trans first.workingDirectory, fun place => ?_⟩
  obtain later | later := second.texts place
  · obtain kept | ⟨text, replaces, kept⟩ := first.texts place
    · exact .inl (kept.trans later)
    · exact .inr ⟨text, replaces, kept.trans later⟩
  · exact .inr later

/-- Texts that are never replaced nor added to are as they were. -/
theorem Changes.of_same (start : d'.workingDirectory = d.workingDirectory)
    (same : ∀ place, d'.text? place = d.text? place) : Changes grown replaced d d' :=
  ⟨start, fun place => .inl (.inl (same place))⟩

theorem text?_put_of_ne {node : Node} (apart : other ≠ place) :
    (d.put place node).text? other = d.text? other := by
  unfold text?
  rw [node?_put_of_ne apart]

/-- Nothing has been where a directory is made. -/
theorem makeDirectory_changes {start : Place} {names : List String}
    (made : d.makeDirectory start names = .ok d') : Changes grown replaced d d' := by
  obtain ⟨place, walked, made⟩ := bind_eq_ok.mp made
  split at made
  · contradiction
  · rename_i free
    obtain rfl := Except.ok.inj made
    rw [Bool.not_eq_true, Option.isSome_eq_false_iff, Option.isNone_iff_eq_none] at free
    have inside : place ≠ [] := by
      rintro rfl
      rw [node?_nil] at free
      contradiction
    refine .of_same rfl fun other => ?_
    by_cases same : other = place
    · rw [same, text?, text?, node?_put_self inside, free]
    · exact text?_put_of_ne same

theorem orPresent_eq {start : Place} {names : List String} {fault : FileFault}
    (present : d.orPresent start names fault = .ok d') : d' = d := by
  unfold orPresent at present
  split at present
  · split at present
    · exact (Except.ok.inj present).symm
    · contradiction
  · contradiction

theorem makeDirectories_changes {start : Place} {names : List String} {n : Nat}
    (made : d.makeDirectories start names n = .ok d') : Changes grown replaced d d' := by
  induction n generalizing d d' with
  | zero =>
    obtain rfl := Except.ok.inj made
    exact .refl d
  | succ n ih =>
    unfold makeDirectories at made
    split at made
    · rename_i given
      obtain rfl := Except.ok.inj made
      exact makeDirectory_changes given
    · split at made
      · contradiction
      · rename_i above parents
        split at made
        · rename_i given
          obtain rfl := Except.ok.inj made
          exact (ih parents).trans (makeDirectory_changes given)
        · obtain rfl := orPresent_eq made
          exact ih parents
    · obtain rfl := orPresent_eq made
      exact .refl _

theorem makeParents_changes (made : d.makeParents path = .ok d') : Changes grown replaced d d' :=
  makeDirectories_changes made

/-- A change of a file is one at the place that its path names. -/
theorem text?_update (updated : d.update path change = .ok d') :
    d'.workingDirectory = d.workingDirectory ∧
      d'.text? (d.placeOf path) = some (change (d.text? (d.placeOf path))) ∧
      ∀ other, other ≠ d.placeOf path → d'.text? other = d.text? other := by
  obtain ⟨_, _, place, walked, free, rfl⟩ := of_update updated
  obtain rfl := walk_eq_destination walked
  refine ⟨rfl, ?_, fun other apart => text?_put_of_ne apart⟩
  rw [text?, placeOf, node?_put_self (ne_nil_of_node? free)]

theorem append_changes (appended : d.append path text = .ok d') (grows : grown (d.placeOf path)) :
    Changes grown replaced d d' := by
  obtain ⟨start, here, others⟩ := text?_update appended
  refine ⟨start, fun place => .inl ?_⟩
  by_cases same : place = d.placeOf path
  · exact .inr (same ▸ ⟨grows, text, here⟩)
  · exact .inl (others place same)

theorem openLog_changes (opened : d.openLog path = .ok d') (grows : grown (d.placeOf path)) :
    Changes grown replaced d d' := by
  unfold openLog at opened
  split at opened
  · rename_i appended
    obtain rfl := Except.ok.inj opened
    exact append_changes appended grows
  · obtain ⟨parents, made, appended⟩ := bind_eq_ok.mp opened
    have first : Changes grown replaced d parents := makeParents_changes made
    refine first.trans (append_changes appended ?_)
    rwa [first.placeOf path]

theorem write_changes (written : d.write path text = .ok d')
    (replaces : replaced (d.placeOf path) text) : Changes grown replaced d d' := by
  obtain ⟨parents, made, updated⟩ := bind_eq_ok.mp written
  have first : Changes grown replaced d parents := makeParents_changes made
  refine first.trans ?_
  obtain ⟨start, here, others⟩ := text?_update updated
  refine ⟨start, fun place => ?_⟩
  by_cases same : place = parents.placeOf path
  · subst same
    exact .inr ⟨text, first.placeOf path ▸ replaces, .inl here⟩
  · exact .inl (.inl (others place same))

/-- Only a write replaces a text. -/
theorem answer_changes (q : Question)
    (replaces : ∀ path text, q = .write path text → replaced (d.placeOf path) text) :
    Changes grown replaced d (d.answer q).2 := by
  cases q with
  | examine | read => exact .refl d
  | write path text =>
    cases written : d.write path text with
    | ok d' =>
      simp only [answer, written]
      exact write_changes written (replaces path text rfl)
    | error fault =>
      simp only [answer, written]
      exact .refl d

end FleetRollout.Storage.Disk
