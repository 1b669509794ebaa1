import FleetRollout.Fleet.GroupCounts

/-! Counts as others see them. The numbers of the writes tell only which one came first: counts that
were written some writes later cannot be told from them, whatever becomes of both. -/
namespace FleetRollout.GroupCounts

inductive Change
  | insert (group : String) (total : UInt64)
  | erase (group : String)
  | retain (keep : String → Bool)
  | clear

def apply (c : GroupCounts) : Change → GroupCounts
  | .insert group total => c.insert group total
  | .erase group => c.erase group
  | .retain keep => c.retain keep
  | .clear => c.clear

def after (c : GroupCounts) (changes : List Change) : GroupCounts := changes.foldl apply c

/-- An entry that is written some writes later. -/
def delayEntry (delay : Nat) (e : String × CountEntry) : String × CountEntry :=
  (e.1, { e.2 with written := e.2.written + delay })

/-- The counts, had some writes come before all of theirs. -/
def delayed (c : GroupCounts) (delay : Nat) : GroupCounts :=
  { c with
    entries := ⟨c.entries.entries.map (delayEntry delay)⟩
    writes := c.writes + delay }

variable (c : GroupCounts) (delay : Nat)

theorem lookup_delayed (group : String) (entries : List (String × CountEntry)) :
    Dict.lookup group (entries.map (delayEntry delay)) =
      (Dict.lookup group entries).map fun e => { e with written := e.written + delay } := by
  induction entries with
  | nil => rfl
  | cons e rest ih => by_cases same : e.1 = group <;> simp [Dict.lookup, delayEntry, same, ih]

theorem get?_delayed (group : String) : (c.delayed delay).get? group = c.get? group := by
  simp only [get?, entry?, delayed, Dict.get?, lookup_delayed, Option.map_map]
  rfl

theorem place_delayed (group : String) (total : UInt64) (written : Nat)
    (entries : List (String × CountEntry)) :
    Dict.place group ⟨total, written + delay⟩ (entries.map (delayEntry delay)) =
      (Dict.place group ⟨total, written⟩ entries).map (delayEntry delay) := by
  induction entries with
  | nil => rfl
  | cons e rest ih =>
    simp only [List.map_cons, delayEntry, Dict.place] at ih ⊢
    split
    · rfl
    · split
      · rfl
      · rw [ih]
        rfl

theorem filter_delayed (keep : String → Bool) (entries : List (String × CountEntry)) :
    (entries.map (delayEntry delay)).filter (fun e => keep e.1) =
      (entries.filter fun e => keep e.1).map (delayEntry delay) := List.filter_map

/-- A delay changes no order. -/
theorem oldest?_delayed (entries : List (String × CountEntry)) :
    oldest? (entries.map (delayEntry delay)) = (oldest? entries).map (delayEntry delay) := by
  induction entries with
  | nil => rfl
  | cons e rest ih =>
    rw [List.map_cons, oldest?, oldest?, ih]
    cases oldest? rest with
    | none => rfl
    | some other =>
      have order : (delayEntry delay other).2.written < (delayEntry delay e).2.written ↔
          other.2.written < e.2.written := Nat.add_lt_add_iff_right
      simp only [Option.map_some, order]
      split <;> rfl

theorem withRoom_delayed (group : String) :
    (c.delayed delay).withRoom group = ⟨(c.withRoom group).entries.map (delayEntry delay)⟩ := by
  have held : (c.delayed delay).entries.contains group = c.entries.contains group := by
    simp [delayed, Dict.contains, Dict.get?, lookup_delayed]
  have size : (c.delayed delay).entries.size = c.entries.size := List.length_map _
  have capacity : (c.delayed delay).capacity = c.capacity := rfl
  have oldest : oldest? (c.delayed delay).entries.entries =
      (oldest? c.entries.entries).map (delayEntry delay) := oldest?_delayed delay _
  unfold withRoom
  rw [held, size, capacity, oldest]
  split
  · rfl
  · cases oldest? c.entries.entries with
    | none => rfl
    | some e => exact congrArg Dict.mk (filter_delayed delay (fun k => decide (k ≠ e.1)) _)

theorem apply_delayed (change : Change) :
    (c.delayed delay).apply change = (c.apply change).delayed delay := by
  cases change with
  | insert group total =>
    have number : c.writes + delay + 1 = c.writes + 1 + delay := by omega
    have placed := place_delayed delay group total (c.writes + 1) (c.withRoom group).entries
    simp only [apply, insert, withRoom_delayed, Dict.insert]
    simp only [delayed, number, placed]
  | erase group =>
    have kept := filter_delayed delay (fun k => decide (k ≠ group)) c.entries.entries
    simp only [apply, erase, Dict.erase]
    simp only [delayed, kept]
  | retain keep =>
    have kept := filter_delayed delay keep c.entries.entries
    simp only [apply, retain, Dict.retain]
    simp only [delayed, kept]
  | clear => rfl

theorem after_delayed (changes : List Change) :
    (c.delayed delay).after changes = (c.after changes).delayed delay := by
  induction changes generalizing c with
  | nil => rfl
  | cons change rest ih =>
    unfold after at ih ⊢
    rw [List.foldl_cons, List.foldl_cons, apply_delayed, ih]

def unwritten : GroupCounts := { c with entries := .empty, writes := 0 }

theorem unwritten_delayed {c : GroupCounts} (empty : c.entries = .empty) :
    c.unwritten.delayed c.writes = c := by
  cases c
  cases empty
  simp [delayed, unwritten, Dict.empty]

/-- Where there are no counts, it does not show that there were some. -/
theorem get?_after_unwritten {c : GroupCounts} (empty : c.entries = .empty) (changes : List Change)
    (group : String) : (c.unwritten.after changes).get? group = (c.after changes).get? group := by
  rw [← get?_delayed _ c.writes, ← after_delayed, unwritten_delayed empty]

end FleetRollout.GroupCounts
