import FleetRollout.Proofs.Dict
import FleetRollout.Proofs.Fleet.GroupCounts

/-! Counts in the order in which they were written. The numbers of the writes grow along that order,
so the count that makes way is the first one. -/
namespace FleetRollout.GroupCounts

/-- What becomes of counts in the order of their writes if there is room for `capacity` of them. -/
def update (capacity : Nat) (counts : List (String × UInt64)) : Change → List (String × UInt64)
  | .insert group total =>
    if group ∈ counts.map Prod.fst then (counts.filter fun e => e.1 ≠ group) ++ [(group, total)]
    else if counts.length < capacity then counts ++ [(group, total)]
    else counts.tail ++ [(group, total)]
  | .erase group => counts.filter fun e => e.1 ≠ group
  | .retain keep => counts.filter fun e => keep e.1
  | .clear => []

def updated (capacity : Nat) (changes : List Change) : List (String × UInt64) :=
  changes.foldl (update capacity) []

def total (e : String × CountEntry) : String × UInt64 := (e.1, e.2.total)

/-- Entries in the order of their writes, the last one of them no later than write `writes`. -/
structure InOrder (d : Dict CountEntry) (writes : Nat) (line : List (String × CountEntry)) :
    Prop where
  ordered : Dict.Ordered d.entries
  perm : d.entries.Perm line
  increasing : line.Pairwise fun a b => a.2.written < b.2.written
  numbered : ∀ e ∈ line, e.2.written ≤ writes

theorem oldest?_eq_none {entries : List (String × CountEntry)} (none : oldest? entries = none) :
    entries = [] := by
  cases entries with
  | nil => rfl
  | cons e rest =>
    unfold oldest? at none
    split at none
    · contradiction
    · split at none <;> contradiction

theorem oldest?_least {entries : List (String × CountEntry)} {e : String × CountEntry}
    (oldest : oldest? entries = some e) :
    e ∈ entries ∧ ∀ other ∈ entries, e.2.written ≤ other.2.written := by
  induction entries generalizing e with
  | nil => contradiction
  | cons first rest ih =>
    unfold oldest? at oldest
    split at oldest
    · rename_i none
      obtain rfl := Option.some.inj oldest
      simp [oldest?_eq_none none]
    · rename_i least found
      obtain ⟨member, before⟩ := ih found
      split at oldest
      · rename_i earlier
        obtain rfl := Option.some.inj oldest
        exact ⟨List.mem_cons_of_mem _ member, List.forall_mem_cons.mpr ⟨earlier.le, before⟩⟩
      · rename_i later
        obtain rfl := Option.some.inj oldest
        refine ⟨List.mem_cons_self, List.forall_mem_cons.mpr ⟨le_rfl, fun other member => ?_⟩⟩
        exact (not_lt.mp later).trans (before other member)

namespace InOrder
variable {d : Dict CountEntry} {writes : Nat} {line : List (String × CountEntry)}

theorem nodup (inOrder : InOrder d writes line) : (line.map Prod.fst).Nodup :=
  (inOrder.perm.map _).nodup_iff.mp inOrder.ordered.nodup

theorem size (inOrder : InOrder d writes line) : d.size = line.length := inOrder.perm.length_eq

theorem contains (inOrder : InOrder d writes line) (group : String) :
    d.contains group = true ↔ group ∈ line.map Prod.fst :=
  Dict.lookup_isSome_iff.trans (inOrder.perm.map _).mem_iff

theorem oldest? {e : String × CountEntry} (inOrder : InOrder d writes (e :: line)) :
    oldest? d.entries = some e := by
  cases oldest : GroupCounts.oldest? d.entries with
  | none =>
    have empty := inOrder.perm
    rw [oldest?_eq_none oldest] at empty
    exact absurd empty.nil_eq (List.cons_ne_nil e line).symm
  | some other =>
    obtain ⟨member, least⟩ := oldest?_least oldest
    obtain rfl | later := List.mem_cons.mp (inOrder.perm.mem_iff.mp member)
    · rfl
    · have before := (List.pairwise_cons.mp inOrder.increasing).1 other later
      have after := least e (inOrder.perm.mem_iff.mpr List.mem_cons_self)
      omega

theorem filter (inOrder : InOrder d writes line) (keep : String × CountEntry → Bool) :
    InOrder ⟨d.entries.filter keep⟩ writes (line.filter keep) where
  ordered := inOrder.ordered.filter keep
  perm := inOrder.perm.filter keep
  increasing := inOrder.increasing.filter keep
  numbered e member := inOrder.numbered e (List.mem_of_mem_filter member)

/-- A new write comes last, and takes the place of an earlier one of its group. -/
theorem insert (inOrder : InOrder d writes line) (group : String) (total : UInt64) :
    InOrder (d.insert group ⟨total, writes + 1⟩) (writes + 1)
      ((line.filter fun e => e.1 ≠ group) ++ [(group, ⟨total, writes + 1⟩)]) := by
  have earlier : ∀ e ∈ line.filter fun e => e.1 ≠ group, e.2.written ≤ writes :=
    fun e member => inOrder.numbered e (List.mem_of_mem_filter member)
  refine ⟨Dict.ordered_place inOrder.ordered _ _, ?_, ?_, ?_⟩
  · have placed := Dict.perm_place inOrder.ordered group ⟨total, writes + 1⟩
    have others := inOrder.perm.filter fun e => e.1 ≠ group
    exact (placed.trans (others.cons _)).trans (List.perm_append_singleton _ _).symm
  · refine List.pairwise_append.mpr ⟨inOrder.increasing.filter _, List.pairwise_singleton _ _, ?_⟩
    rintro e member _ last
    obtain rfl := List.mem_singleton.mp last
    exact Nat.lt_succ_of_le (earlier e member)
  · intro e member
    obtain member | last := List.mem_append.mp member
    · exact (earlier e member).trans (Nat.le_succ _)
    · obtain rfl := List.mem_singleton.mp last
      exact le_rfl

theorem eraseFirst {e : String × CountEntry} (inOrder : InOrder d writes (e :: line)) :
    InOrder (d.erase e.1) writes line := by
  have kept : ((e :: line).filter fun other => other.1 ≠ e.1) = line := by
    rw [List.filter_cons_of_neg (by simp)]
    exact Dict.filter_ne_eq_self (List.nodup_cons.mp inOrder.nodup).1
  have rest := inOrder.filter fun other => other.1 ≠ e.1
  rwa [kept] at rest

end InOrder

/-- The counts are those of a list in the order of the writes, which is no longer than allowed. -/
def Follows (c : GroupCounts) (counts : List (String × UInt64)) : Prop :=
  counts.length ≤ c.capacity ∧ ∃ line, InOrder c.entries c.writes line ∧ line.map total = counts

theorem map_fst_total (line : List (String × CountEntry)) :
    (line.map total).map Prod.fst = line.map Prod.fst := by
  rw [List.map_map]
  rfl

theorem map_total_filter (keep : String → Bool) (line : List (String × CountEntry)) :
    (line.filter fun e => keep e.1).map total = (line.map total).filter fun e => keep e.1 := by
  rw [List.filter_map]
  rfl

variable {c : GroupCounts} {counts : List (String × UInt64)}

theorem Follows.retain (follows : c.Follows counts) (keep : String → Bool) :
    (c.retain keep).Follows (counts.filter fun e => keep e.1) := by
  obtain ⟨bounded, line, inOrder, rfl⟩ := follows
  refine ⟨(List.length_filter_le _ _).trans bounded, _, inOrder.filter fun e => keep e.1, ?_⟩
  exact map_total_filter keep line

/-- The entries that a write is added to. -/
theorem InOrder.withRoom {line : List (String × CountEntry)}
    (inOrder : InOrder c.entries c.writes line) (group : String) :
    InOrder (c.withRoom group) c.writes
      (if group ∈ line.map Prod.fst ∨ line.length < c.capacity then line else line.tail) := by
  have room : (c.entries.contains group || c.entries.size < c.capacity) = true ↔
      group ∈ line.map Prod.fst ∨ line.length < c.capacity := by
    rw [Bool.or_eq_true, decide_eq_true_iff, inOrder.contains, inOrder.size]
  unfold GroupCounts.withRoom
  by_cases held : group ∈ line.map Prod.fst ∨ line.length < c.capacity
  · rw [if_pos (room.mpr held), if_pos held]
    exact inOrder
  · rw [if_neg (mt room.mp held), if_neg held]
    cases line with
    | nil => exact absurd (.inr c.capacity_pos) held
    | cons e rest =>
      rw [inOrder.oldest?]
      exact inOrder.eraseFirst

/-- A write comes last in the order. -/
theorem Follows.of_written {others : List (String × CountEntry)} {group : String} {n : UInt64}
    (room : others.length < c.capacity)
    (written : InOrder (c.insert group n).entries (c.writes + 1)
      (others ++ [(group, ⟨n, c.writes + 1⟩)])) :
    (c.insert group n).Follows (others.map total ++ [(group, n)]) := by
  refine ⟨?_, _, written, by simp [total]⟩
  rw [List.length_append, List.length_map]
  exact room

theorem Follows.insert (follows : c.Follows counts) (group : String) (n : UInt64) :
    (c.insert group n).Follows (update c.capacity counts (.insert group n)) := by
  obtain ⟨bounded, line, inOrder, rfl⟩ := follows
  rw [List.length_map] at bounded
  have written := (inOrder.withRoom group).insert group n
  simp only [update, map_fst_total, List.length_map]
  -- As in the list: the group is moved to the end, is added, or takes the place of the first one.
  by_cases held : group ∈ line.map Prod.fst
  · rw [if_pos (.inl held)] at written
    rw [if_pos held, ← map_total_filter fun k => decide (k ≠ group)]
    refine .of_written (lt_of_lt_of_le ?_ bounded) written
    obtain ⟨e, member, rfl⟩ := List.mem_map.mp held
    exact List.length_filter_lt_length_iff_exists.mpr ⟨e, member, by simp⟩
  · rw [if_neg held]
    by_cases room : line.length < c.capacity
    · rw [if_pos (.inr room), Dict.filter_ne_eq_self held] at written
      rw [if_pos room]
      exact .of_written room written
    · have gone : group ∉ line.tail.map Prod.fst := by
        rw [List.map_tail]
        exact fun member => held (List.mem_of_mem_tail member)
      rw [if_neg (not_or.mpr ⟨held, room⟩), Dict.filter_ne_eq_self gone] at written
      rw [if_neg room, ← List.map_tail]
      refine .of_written ?_ written
      have positive := c.capacity_pos
      rw [List.length_tail]
      omega

theorem Follows.apply (follows : c.Follows counts) (change : Change) :
    (c.apply change).Follows (update c.capacity counts change) := by
  cases change with
  | insert group n => exact follows.insert group n
  | erase group => exact follows.retain fun k => decide (k ≠ group)
  | retain keep => exact follows.retain keep
  | clear => exact ⟨Nat.zero_le _, [], ⟨.nil, .nil, .nil, nofun⟩, rfl⟩

theorem capacity_apply (c : GroupCounts) (change : Change) :
    (c.apply change).capacity = c.capacity := by
  cases change <;> rfl

theorem capacity_after (c : GroupCounts) (changes : List Change) :
    (c.after changes).capacity = c.capacity := by
  induction changes generalizing c with
  | nil => rfl
  | cons change rest ih => exact (ih _).trans (capacity_apply c change)

theorem follows_after (follows : c.Follows counts) (changes : List Change) :
    (c.after changes).Follows (changes.foldl (update c.capacity) counts) := by
  induction changes generalizing c counts with
  | nil => exact follows
  | cons change rest ih =>
    have later := ih (follows.apply change)
    rw [capacity_apply] at later
    exact later

namespace Follows

theorem size (follows : c.Follows counts) : c.size = counts.length := by
  obtain ⟨_, line, inOrder, rfl⟩ := follows
  rw [List.length_map]
  exact inOrder.size

theorem keys (follows : c.Follows counts) : c.entries.keys.Perm (counts.map Prod.fst) := by
  obtain ⟨_, line, inOrder, rfl⟩ := follows
  rw [map_fst_total]
  exact inOrder.perm.map Prod.fst

theorem nodup (follows : c.Follows counts) : (counts.map Prod.fst).Nodup := by
  obtain ⟨_, line, inOrder, rfl⟩ := follows
  rw [map_fst_total]
  exact inOrder.nodup

theorem get? (follows : c.Follows counts) (group : String) (n : UInt64) :
    c.get? group = some n ↔ (group, n) ∈ counts := by
  obtain ⟨_, line, inOrder, rfl⟩ := follows
  have found (e : CountEntry) : c.entry? group = some e ↔ (group, e) ∈ line :=
    (Dict.lookup_eq_some_iff inOrder.ordered.nodup).trans inOrder.perm.mem_iff
  simp [GroupCounts.get?, found, total]

end Follows

/-- The counts are those of a list in the order of the writes: what is written comes last, and where
there is no room the first one makes way for it. -/
theorem counts_follow_write_order (capacity : Nat) (changes : List Change) :
    let c := (ofCapacity capacity).after changes
    let counts := updated (max capacity 1) changes
    (counts.map Prod.fst).Nodup ∧ counts.length ≤ max capacity 1 ∧
    c.size = counts.length ∧ (c.isEmpty = true ↔ counts = []) ∧
    c.entries.keys.Perm (counts.map Prod.fst) ∧
    (∀ group n, c.get? group = some n ↔ (group, n) ∈ counts) ∧
    (∀ group n, (∃ e, c.entry? group = some e ∧ e.total = n) ↔ (group, n) ∈ counts) ∧
    (∀ group, (c.remove group).2 = (ofCapacity capacity).after (changes ++ [.erase group]) ∧
      ∀ n, (c.remove group).1 = some n ↔ (group, n) ∈ counts) ∧
    ∀ group n, (c.insert group n).get? group = some n := by
  intro c counts
  have start : (ofCapacity capacity).Follows [] :=
    ⟨Nat.zero_le _, [], ⟨.nil, .nil, .nil, nofun⟩, rfl⟩
  have follows : c.Follows counts := follows_after start changes
  have bounded := follows.1.trans_eq (capacity_after _ changes)
  refine ⟨follows.nodup, bounded, follows.size, ?_, follows.keys, follows.get?, ?_, ?_,
    c.get?_insert_self⟩
  · rw [← List.length_eq_zero_iff, ← follows.size]
    exact List.isEmpty_iff_length_eq_zero
  · intro group n
    rw [← follows.get?, GroupCounts.get?, Option.map_eq_some_iff]
  · intro group
    refine ⟨?_, follows.get? group⟩
    simp only [after, List.foldl_append]
    rfl

/-- The first group was written again, so the second one makes way. -/
example : updated 2 [.insert "a" 1, .insert "b" 2, .insert "a" 3, .insert "c" 4] =
    [("a", 3), ("c", 4)] := by decide

end FleetRollout.GroupCounts
