import FleetRollout.Proofs.Dict
import FleetRollout.Proofs.Json.Rereading

/-! What was read once is read again from what is written for it. A value of any kind is read only
where its arrays and objects find room and its integers are in range, and what is written for it
needs no more room than what it was read from. -/
namespace FleetRollout.Json
variable {α : Type} {level : Nat}

/-- What is read at a level is read there again from what is written for it, if all numbers in that
are integers. -/
def Restores (level : Nat) (read : Reader α) (write : α → Json) : Prop :=
  ∀ {s a}, read level s = some a → (write a).isWhole = true →
    read level (write a).tree = some a

theorem value_int (level : Nat) {n : Int} (least : leastInt ≤ n) (greatest : n ≤ greatestInt) :
    Reader.value level (Json.int n).tree = some (.int n) := by
  rw [tree, Reader.value, Numeral.value?]
  by_cases negative : n < 0
  · obtain ⟨k, rfl⟩ : ∃ k : Nat, n = -(k : Int) := ⟨n.natAbs, by omega⟩
    have positive : 0 < k := by omega
    simp [Numeral.isWhole, positive, least]
  · obtain ⟨k, rfl⟩ : ∃ k : Nat, n = (k : Int) := ⟨n.natAbs, by omega⟩
    simp [Numeral.isWhole, negative, greatest]

theorem value_number {n : Numeral} {j : Json} (level : Nat) (reads : n.value? = some j)
    (whole : j.isWhole = true) : Reader.value level j.tree = some j := by
  have below : leastInt ≤ 0 := by decide
  have above : 0 ≤ greatestInt := by decide
  simp only [Numeral.value?, Bool.and_eq_true, decide_eq_true_eq] at reads
  split at reads
  · rename_i natural
    obtain rfl := Option.some.inj reads
    exact value_int level (by omega) natural.2
  · split at reads
    · rename_i negative
      obtain rfl := Option.some.inj reads
      exact value_int level negative.2 (by omega)
    · obtain ⟨x, _, rfl⟩ := Option.map_eq_some_iff.mp reads
      contradiction

theorem isWhole_of_mem {v : Json} {items : List Json} (whole : areWhole items = true)
    (member : v ∈ items) : v.isWhole = true := by
  induction items with
  | nil => contradiction
  | cons item rest ih =>
    obtain ⟨first, others⟩ := Bool.and_eq_true_iff.mp whole
    obtain rfl | later := List.mem_cons.mp member
    · exact first
    · exact ih others later

theorem isWhole_of_mem_members {m : String × Json} {members : List (String × Json)}
    (whole : membersAreWhole members = true) (member : m ∈ members) : m.2.isWhole = true := by
  induction members with
  | nil => contradiction
  | cons first rest ih =>
    obtain ⟨one, others⟩ := Bool.and_eq_true_iff.mp whole
    obtain rfl | later := List.mem_cons.mp member
    · exact one
    · exact ih others later

theorem values_itemTrees {items : List Json}
    (each : ∀ v ∈ items, Reader.value level v.tree = some v) :
    Reader.values level (itemTrees items) = some items := by
  induction items with
  | nil => rfl
  | cons item rest ih =>
    have first := each item List.mem_cons_self
    have others := ih fun v later => each v (List.mem_cons_of_mem _ later)
    simp [itemTrees, Reader.values, first, others]

theorem entries_memberTrees {members : List (String × Json)}
    (each : ∀ m ∈ members, Reader.value level m.2.tree = some m.2) :
    Reader.entries level (memberTrees members) = some members := by
  induction members with
  | nil => rfl
  | cons m rest ih =>
    have first := each m List.mem_cons_self
    have others := ih fun m later => each m (List.mem_cons_of_mem _ later)
    simp [memberTrees, Reader.entries, first, others]

/-- Of the members that were read some are left, in the order of their keys. -/
theorem entries_ofList {es : List (String × Json)}
    (each : ∀ e ∈ es, e.2.isWhole = true → Reader.value level e.2.tree = some e.2)
    (whole : membersAreWhole (Dict.ofList es).entries = true) :
    (Reader.entries level (memberTrees (Dict.ofList es).entries)).map Dict.ofList =
      some (Dict.ofList es) := by
  have ordered := Dict.ordered_ofList es
  have again : Reader.entries level (memberTrees (Dict.ofList es).entries) =
      some (Dict.ofList es).entries := by
    refine entries_memberTrees fun e left => each e ?_ (isWhole_of_mem_members whole left)
    exact Dict.mem_of_get?_ofList ((Dict.lookup_eq_some_iff ordered.nodup).mpr left)
  rw [again, Option.map_some, Dict.ofList_entries ordered]

mutual

/-- Whatever was read is read again at its level, which has room for it as before. -/
theorem value_tree {level : Nat} {j : Json} :
    (s : Syntax) → Reader.value level s = some j → j.isWhole = true →
      Reader.value level j.tree = some j
  | .null, reads, _ => by
    obtain rfl := Option.some.inj reads
    rfl
  | .bool b, reads, _ => by
    obtain rfl := Option.some.inj reads
    rfl
  | .number n, reads, whole => value_number level reads whole
  | .str s, reads, _ => by
    obtain ⟨text, _, rfl⟩ := Option.map_eq_some_iff.mp reads
    rfl
  | .arr items, reads, whole => by
    rw [Reader.value] at reads
    split at reads
    · rename_i room
      obtain ⟨vs, each, rfl⟩ := Option.map_eq_some_iff.mp reads
      have again := values_itemTrees fun v found =>
        value_tree_of_items items each v found (isWhole_of_mem whole found)
      rw [tree, Reader.value, if_pos room, again, Option.map_some]
    · contradiction
  | .obj members, reads, whole => by
    rw [Reader.value] at reads
    split at reads
    · rename_i room
      obtain ⟨es, each, rfl⟩ := Option.map_eq_some_iff.mp reads
      -- A member that a later one replaced may hold any number, so the members go one by one.
      have again := entries_ofList (value_tree_of_members members each) whole
      rw [tree, Reader.value, if_pos room]
      obtain ⟨es', entries, same⟩ := Option.map_eq_some_iff.mp again
      rw [entries, Option.map_some, same]
    · contradiction

theorem value_tree_of_items {level : Nat} {vs : List Json} :
    (items : List Syntax) → Reader.values level items = some vs →
      ∀ v ∈ vs, v.isWhole = true → Reader.value level v.tree = some v
  | [], reads, v, found, _ => by
    obtain rfl := Option.some.inj reads
    contradiction
  | item :: rest, reads, v, found, whole => by
    simp only [Reader.values, Option.bind_eq_bind, Option.bind_eq_some_iff] at reads
    obtain ⟨first, one, others, more, same⟩ := reads
    obtain rfl := Option.some.inj same
    obtain rfl | later := List.mem_cons.mp found
    · exact value_tree item one whole
    · exact value_tree_of_items rest more v later whole

theorem value_tree_of_members {level : Nat} {es : List (String × Json)} :
    (members : List (Option String × Syntax)) → Reader.entries level members = some es →
      ∀ e ∈ es, e.2.isWhole = true → Reader.value level e.2.tree = some e.2
  | [], reads, e, found, _ => by
    obtain rfl := Option.some.inj reads
    contradiction
  | (key, item) :: rest, reads, e, found, whole => by
    simp only [Reader.entries, Option.bind_eq_bind, Option.bind_eq_some_iff] at reads
    obtain ⟨first, one, _, _, others, more, same⟩ := reads
    obtain rfl := Option.some.inj same
    obtain rfl | later := List.mem_cons.mp found
    · exact value_tree item one whole
    · exact value_tree_of_members rest more e later whole

end

theorem restores_value (level : Nat) : Restores level Reader.value id :=
  fun {s _} reads whole => value_tree s reads whole

theorem restores_map (level : Nat) : Restores level Reader.map (fun d => .obj d.entries) := by
  intro s d reads whole
  cases s with
  | obj members =>
    rw [Reader.map] at reads
    split at reads
    · rename_i room
      obtain ⟨es, each, rfl⟩ := Option.map_eq_some_iff.mp reads
      rw [tree, Reader.map, if_pos room]
      exact entries_ofList (value_tree_of_members members each) whole
    · contradiction
  | _ => contradiction

mutual

/-- JSON as it is held in memory, with room for its arrays and objects at a level: its numbers are
integers of 64 bits, and the keys of its objects are in order. -/
def Fits : Nat → Json → Prop
  | _, .null | _, .bool _ | _, .str _ => True
  | _, .int n => leastInt ≤ n ∧ n ≤ greatestInt
  | _, .float _ => False
  | level, .arr items => level < deepest ∧ AllFit (level + 1) items
  | level, .obj members =>
    level < deepest ∧ Dict.Ordered members ∧ MembersFit (level + 1) members

def AllFit : Nat → List Json → Prop
  | _, [] => True
  | level, item :: rest => Fits level item ∧ AllFit level rest

def MembersFit : Nat → List (String × Json) → Prop
  | _, [] => True
  | level, (_, v) :: rest => Fits level v ∧ MembersFit level rest

end

mutual

/-- JSON that fits holds no other numbers, and is read back. -/
theorem Fits.reads {level : Nat} :
    {j : Json} → Fits level j → j.isWhole = true ∧ Reader.value level j.tree = some j
  | .null, _ | .bool _, _ | .str _, _ => ⟨rfl, rfl⟩
  | .int _, fits => ⟨rfl, value_int level fits.1 fits.2⟩
  | .float _, fits => fits.elim
  | .arr items, fits => by
    obtain ⟨room, inside⟩ := fits
    obtain ⟨whole, again⟩ := AllFit.reads inside
    refine ⟨whole, ?_⟩
    rw [tree, Reader.value, if_pos room, again, Option.map_some]
  | .obj members, fits => by
    obtain ⟨room, ordered, inside⟩ := fits
    obtain ⟨whole, again⟩ := MembersFit.reads inside
    refine ⟨whole, ?_⟩
    have same : Dict.ofList members = ⟨members⟩ := Dict.ofList_entries ordered
    rw [tree, Reader.value, if_pos room, again, Option.map_some, same]

theorem AllFit.reads {level : Nat} :
    {items : List Json} → AllFit level items →
      areWhole items = true ∧ Reader.values level (itemTrees items) = some items
  | [], _ => ⟨rfl, rfl⟩
  | item :: rest, fit => by
    obtain ⟨whole, again⟩ := Fits.reads fit.1
    obtain ⟨others, more⟩ := AllFit.reads fit.2
    simp [areWhole, itemTrees, Reader.values, whole, again, others, more]

theorem MembersFit.reads {level : Nat} :
    {members : List (String × Json)} → MembersFit level members →
      membersAreWhole members = true ∧
        Reader.entries level (memberTrees members) = some members
  | [], _ => ⟨rfl, rfl⟩
  | (_, v) :: rest, fit => by
    obtain ⟨whole, again⟩ := Fits.reads fit.1
    obtain ⟨others, more⟩ := MembersFit.reads fit.2
    simp [membersAreWhole, memberTrees, Reader.entries, whole, again, others, more]

end

theorem Fits.map {d : Dict Json} (fits : Fits level (.obj d.entries)) :
    Reader.map level (Json.obj d.entries).tree = some d := by
  obtain ⟨room, ordered, inside⟩ := fits
  rw [tree, Reader.map, if_pos room, (MembersFit.reads inside).2, Option.map_some,
    Dict.ofList_entries ordered]

/-- A field that may be absent is read back unless it holds a null. -/
theorem Fits.optional {a : Option Json} (fits : ∀ j ∈ a, j ≠ .null ∧ Fits level j) :
    ∀ j ∈ a, Reader.value level j.tree = some j ∧ j.tree ≠ .null := by
  intro j held
  obtain ⟨there, kept⟩ := fits j held
  have again := (Fits.reads kept).2
  refine ⟨again, fun null => there ?_⟩
  rw [null] at again
  exact (Option.some.inj again).symm

theorem eq_null_of_value {s : Syntax} (reads : Reader.value level s = some .null) : s = .null := by
  cases s with
  | null => rfl
  | bool b => cases reads
  | number n =>
    simp only [Reader.value, Numeral.value?] at reads
    split at reads
    · cases reads
    · split at reads
      · cases reads
      · obtain ⟨_, _, same⟩ := Option.map_eq_some_iff.mp reads
        cases same
  | str s =>
    obtain ⟨_, _, same⟩ := Option.map_eq_some_iff.mp reads
    cases same
  | arr items | obj members =>
    rw [Reader.value] at reads
    split at reads
    · obtain ⟨_, _, same⟩ := Option.map_eq_some_iff.mp reads
      cases same
    · cases reads

theorem mem_of_mapM {items : List Syntax} {read : Syntax → Option α} {as : List α}
    (reads : items.mapM read = some as) {a : α} (member : a ∈ as) : ∃ s, read s = some a := by
  induction items generalizing as with
  | nil =>
    obtain rfl := Option.some.inj reads
    contradiction
  | cons item rest ih =>
    simp only [List.mapM_cons, Option.bind_eq_bind, Option.bind_eq_some_iff] at reads
    obtain ⟨first, one, others, more, same⟩ := reads
    obtain rfl := Option.some.inj same
    obtain rfl | later := List.mem_cons.mp member
    · exact ⟨item, one⟩
    · exact ih more later

variable {read : Reader α} {write : α → Json}

theorem restores_list (restores : Restores (level + 1) read write) :
    Restores level (.list read) (fun as => .arr (as.map write)) := by
  intro s as reads whole
  cases s with
  | arr items =>
    refine list_tree fun a member => ?_
    obtain ⟨s, found⟩ := mem_of_mapM reads member
    exact restores found (isWhole_of_mem whole (List.mem_map_of_mem member))
  | _ => contradiction

namespace Record
variable {r : Record} {name : String}

theorem level_of_read {names : List String} {s : Syntax}
    (reads : Record.read names level s = some r) : r.level = level + 1 := by
  cases s with
  | obj members =>
    obtain ⟨fields, _, reads⟩ := Option.bind_eq_some_iff.mp reads
    split at reads
    · rw [← Option.some.inj reads]
    · contradiction
  | arr items =>
    rw [Record.read] at reads
    split at reads
    · rw [← Option.some.inj reads]
    · contradiction
  | _ => contradiction

theorem required_tree (restores : Restores r.level read write) {a : α}
    (reads : r.required name read = some a) (whole : (write a).isWhole = true) :
    read r.level (write a).tree = some a := by
  obtain ⟨s, _, found⟩ := Option.bind_eq_some_iff.mp reads
  exact restores found whole

theorem withDefault_tree (restores : Restores r.level read write) {a default : α}
    (reads : r.withDefault name default read = some a)
    (standing : read r.level (write default).tree = some default)
    (whole : (write a).isWhole = true) : read r.level (write a).tree = some a := by
  unfold withDefault at reads
  split at reads
  · rw [← Option.some.inj reads]
    exact standing
  · exact restores reads whole

/-- Only a value that is not `null` is read as one that is there. -/
theorem optional_value_tree {a : Option Json} (reads : r.optional name .value = some a)
    (whole : ∀ j ∈ a, j.isWhole = true) :
    ∀ j ∈ a, Reader.value r.level j.tree = some j ∧ j.tree ≠ .null := by
  rintro j rfl
  unfold optional withDefault at reads
  split at reads
  · cases reads
  · rename_i s _
    have there : s ≠ .null := by
      rintro rfl
      cases reads
    rw [nullable_eq there] at reads
    obtain ⟨_, found, same⟩ := Option.map_eq_some_iff.mp reads
    obtain rfl := Option.some.inj same
    have again := value_tree s found (whole _ rfl)
    refine ⟨again, fun null => there ?_⟩
    rw [null] at again
    obtain rfl := Option.some.inj again
    exact eq_null_of_value found

end Record

/-- A value is read from both of its texts, the one on one line and the one in many. -/
def ReadsBack (read : Reader α) (write : α → Json) (a : α) : Prop :=
  read.ofString? (write a).compact = some a ∧
    read.ofString? ((write a).pretty ++ "\n") = some a

/-- Every value is read back, whether it was read from a text or not. -/
def Rereads (read : Reader α) (write : α → Json) : Prop := ∀ a, ReadsBack read write a

/-- What is read from a text is read back if all numbers in it are integers, and so is every value
in which the JSON that may be of any kind fits. -/
structure RereadsFitting (read : Reader α) (write : α → Json) (fits : α → Prop) : Prop where
  reread : ∀ text a, read.ofString? text = some a → (write a).isWhole = true →
    ReadsBack read write a
  written : ∀ a, fits a → ReadsBack read write a

theorem readsBack {a : α} (whole : (write a).isWhole = true)
    (reads : read 0 (write a).tree = some a) : ReadsBack read write a := by
  unfold ReadsBack Reader.ofString?
  rw [ofString?_compact whole, ofString?_pretty whole]
  exact ⟨reads, reads⟩

theorem rereads (reads : ∀ a, read 0 (write a).tree = some a)
    (whole : ∀ a, (write a).isWhole = true) : Rereads read write :=
  fun a => readsBack (whole a) (reads a)

theorem rereadsFitting {fits : α → Prop} (restores : Restores 0 read write)
    (holds : ∀ a, fits a → (write a).isWhole = true ∧ read 0 (write a).tree = some a) :
    RereadsFitting read write fits where
  reread := by
    intro text a reads whole
    obtain ⟨s, _, found⟩ := Option.bind_eq_some_iff.mp reads
    exact readsBack whole (restores found whole)
  written a kept := readsBack (holds a kept).1 (holds a kept).2

end FleetRollout.Json
