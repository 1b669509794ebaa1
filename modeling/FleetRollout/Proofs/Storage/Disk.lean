import FleetRollout.Storage.Disk

/-! Reading from a disk what was written to it. A text is put in place of a file or of nothing, so
every directory on the way to it is still there afterwards. -/
namespace FleetRollout.Storage.Disk
variable {d d' : Disk} {place : Place} {node : Node} {path text : String}
  {change : Option String → String}

theorem node?_nil (d : Disk) : d.node? [] = some .directory := rfl

/-- Only a directory is at the root. -/
theorem ne_nil_of_node? (free : d.node? place ≠ some .directory) : place ≠ [] := by
  rintro rfl
  exact free (node?_nil d)

theorem node?_put_self (inside : place ≠ []) : (d.put place node).node? place = some node := by
  simp [node?, put, inside]

theorem lookup_filter_ne {other : Place} (apart : other ≠ place) (nodes : List (Place × Node)) :
    (nodes.filter fun e => e.1 ≠ place).lookup other = nodes.lookup other := by
  induction nodes with
  | nil => rfl
  | cons e rest ih =>
    by_cases gone : e.1 = place
    · have others : (other == e.1) = false := by simpa [gone] using apart
      rw [List.filter_cons_of_neg (by simpa using gone), ih, List.lookup_cons, others]
    · rw [List.filter_cons_of_pos (by simpa using gone), List.lookup_cons, List.lookup_cons, ih]

theorem node?_put_of_ne {other : Place} (apart : other ≠ place) :
    (d.put place node).node? other = d.node? other := by
  have others : (other == place) = false := by simpa using apart
  rw [node?, put, List.lookup_cons, others, lookup_filter_ne apart]
  rfl

/-- A way of directories leads to the same place after something else was put there. -/
theorem walk_put {start : Place} {names : List String} (walked : d.walk start names = .ok place)
    (free : d.node? place ≠ some .directory) :
    (d.put place node).walk start names = .ok place := by
  induction names generalizing start with
  | nil =>
    exact walked
  | cons name rest ih =>
    unfold walk at walked ⊢
    split at walked
    · contradiction
    · contradiction
    · rename_i directory
      -- What is passed on the way is a directory, so it is not what was put there.
      have apart : start ≠ place := by
        rintro rfl
        exact free directory
      rw [node?_put_of_ne apart, directory]
      dsimp only
      split at walked
      · rename_i here
        rw [if_pos here]
        exact ih walked
      · rename_i further
        rw [if_neg further]
        split at walked
        · rename_i back
          rw [if_pos back]
          exact ih walked
        · rename_i forward
          rw [if_neg forward]
          exact ih walked

/-- The checks of a change in their order. -/
theorem update_eq (d : Disk) (path : String) (change : Option String → String) :
    d.update path change =
      if path.isEmpty then .error .notFound
      else match d.walk (d.start path) (parts path) with
        | .error fault => .error fault
        | .ok place =>
          if endsInSlash path || [some ".", some ".."].contains (parts path).getLast? then
            .error .isADirectory
          else match d.node? place with
            | some .directory => .error .isADirectory
            | _ => .ok (d.put place (.file (change (d.text? place)))) := by
  unfold update
  cases path.isEmpty with
  | true => rfl
  | false =>
    cases d.walk (d.start path) (parts path) with
    | error fault => rfl
    | ok place =>
      cases endsInSlash path || [some ".", some ".."].contains (parts path).getLast? with
      | true => rfl
      | false => rfl

/-- A text was put in place of a file or of nothing, at the end of the way along its path. -/
theorem of_update (updated : d.update path change = .ok d') :
    path.isEmpty = false ∧ endsInSlash path = false ∧
      ∃ place, d.walk (d.start path) (parts path) = .ok place ∧
        d.node? place ≠ some .directory ∧ d' = d.put place (.file (change (d.text? place))) := by
  rw [update_eq] at updated
  split at updated
  · contradiction
  · rename_i named
    split at updated
    · contradiction
    · rename_i place walked
      split at updated
      · contradiction
      · rename_i file
        rw [Bool.or_eq_true, not_or, Bool.not_eq_true] at file
        split at updated
        · contradiction
        · rename_i free
          obtain rfl := Except.ok.inj updated
          exact ⟨Bool.eq_false_iff.mpr named, file.1, place, walked, free, rfl⟩

/-- The place of a text that was put there. -/
theorem locate_update (updated : d.update path change = .ok d') :
    ∃ place, d'.locate path = .ok place ∧
      d'.node? place = some (.file (change (d.text? place))) := by
  obtain ⟨named, file, place, walked, free, rfl⟩ := of_update updated
  refine ⟨place, ?_, node?_put_self (ne_nil_of_node? free)⟩
  rw [locate, named, if_neg (by decide), names, file, if_neg (by decide)]
  exact walk_put walked free

theorem locate_write (written : d.write path text = .ok d') :
    ∃ place, d'.locate path = .ok place ∧ d'.node? place = some (.file text) := by
  obtain ⟨made, _, updated⟩ := bind_eq_ok.mp written
  exact locate_update updated

theorem read_write (written : d.write path text = .ok d') : d'.read path = .ok text := by
  obtain ⟨place, found, file⟩ := locate_write written
  refine bind_eq_ok.mpr ⟨place, found, ?_⟩
  rw [file]
  rfl

/-- What can be read is there. -/
theorem examine_of_read (found : d.read path = .ok text) : d.examine path = .ok () := by
  obtain ⟨place, located, file⟩ := bind_eq_ok.mp found
  refine bind_eq_ok.mpr ⟨place, located, ?_⟩
  cases node : d.node? place with
  | none =>
    rw [node] at file
    contradiction
  | some node => rfl

end FleetRollout.Storage.Disk
