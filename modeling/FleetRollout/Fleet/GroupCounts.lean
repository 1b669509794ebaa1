import FleetRollout.Dict

/-! Device counts of groups, kept in memory up to a capacity. Each write gets the next number; when
a new group finds no room, the count that was written longest ago makes way. -/
namespace FleetRollout

structure CountEntry where
  total : UInt64
  written : Nat
deriving DecidableEq, Repr

structure GroupCounts where
  /-- The most counts that are kept. -/
  capacity : Nat
  entries : Dict CountEntry := .empty
  /-- The number of writes so far. -/
  writes : Nat := 0
  capacity_pos : 0 < capacity

namespace GroupCounts

def usualCapacity : Nat := 64

/-- No counts; there is room for one at least. -/
def ofCapacity (capacity : Nat) : GroupCounts := { capacity := max capacity 1, capacity_pos := by omega }

instance : Inhabited GroupCounts := ⟨ofCapacity usualCapacity⟩

def entry? (c : GroupCounts) (group : String) : Option CountEntry := c.entries.get? group

def get? (c : GroupCounts) (group : String) : Option UInt64 := (c.entry? group).map (·.total)

def size (c : GroupCounts) : Nat := c.entries.size

def isEmpty (c : GroupCounts) : Bool := c.entries.isEmpty

def oldest? : List (String × CountEntry) → Option (String × CountEntry)
  | [] => none
  | e :: rest =>
    match oldest? rest with
    | none => some e
    | some other => if other.2.written < e.2.written then some other else some e

def withRoom (c : GroupCounts) (group : String) : Dict CountEntry :=
  if c.entries.contains group || c.entries.size < c.capacity then c.entries
  else match oldest? c.entries.entries with
    | some (name, _) => c.entries.erase name
    | none => c.entries

def insert (c : GroupCounts) (group : String) (total : UInt64) : GroupCounts :=
  { c with
    entries := (c.withRoom group).insert group ⟨total, c.writes + 1⟩
    writes := c.writes + 1 }

def erase (c : GroupCounts) (group : String) : GroupCounts :=
  { c with entries := c.entries.erase group }

/-- Drops the count of a group, and tells what it was. -/
def remove (c : GroupCounts) (group : String) : Option UInt64 × GroupCounts :=
  (c.get? group, c.erase group)

def retain (c : GroupCounts) (keep : String → Bool) : GroupCounts :=
  { c with entries := c.entries.retain keep }

def clear (c : GroupCounts) : GroupCounts := { c with entries := .empty }

/-- There is always room for the count that is written. -/
theorem get?_insert_self (c : GroupCounts) (group : String) (total : UInt64) :
    (c.insert group total).get? group = some total := by
  simp [get?, entry?, insert, Dict.get?_insert]

theorem get?_retain (c : GroupCounts) (keep : String → Bool) (group : String) :
    (c.retain keep).get? group = if keep group then c.get? group else none := by
  by_cases kept : keep group <;> simp [get?, entry?, retain, Dict.get?_retain, kept]

@[simp] theorem get?_clear (c : GroupCounts) (group : String) : c.clear.get? group = none := rfl

theorem entry?_withRoom {c : GroupCounts} {group other : String} {e : CountEntry}
    (found : (c.withRoom group).get? other = some e) : c.entry? other = some e := by
  unfold withRoom at found
  split at found
  · exact found
  · split at found
    · rw [Dict.get?_erase] at found
      split at found
      · contradiction
      · exact found
    · exact found

/-- A write tells nothing of another group; at most it makes its count give way. -/
theorem get?_of_get?_insert {c : GroupCounts} {group other : String} {total n : UInt64}
    (found : (c.insert group total).get? other = some n) (ne : group ≠ other) :
    c.get? other = some n := by
  obtain ⟨e, held, rfl⟩ := Option.map_eq_some_iff.mp found
  have kept : (c.withRoom group).get? other = some e := by
    simpa [insert, entry?, Dict.get?_insert, ne] using held
  simp [get?, entry?_withRoom kept]

end GroupCounts
end FleetRollout
