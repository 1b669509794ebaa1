import FleetRollout.Json.Reader
import FleetRollout.Proofs.Json.Trees

/-! Typed values that are read back from the tree of what was written for them. -/
namespace FleetRollout.Json
variable {α : Type}

theorem below_tree {bound n : Nat} (level : Nat) (small : n < bound) :
    Reader.below bound level (Json.nat n).tree = some ⟨n, small⟩ := by
  have natural : ¬ ((n : Int) < 0) := by omega
  simp [Json.nat, tree, Reader.below, Numeral.natural?, Numeral.isWhole, natural, small]

theorem uint32_tree (level : Nat) (n : UInt32) :
    Reader.uint32 level (Json.nat n.toNat).tree = some n := by
  rw [Reader.uint32, below_tree level n.toNat_lt]
  rfl

theorem uint64_tree (level : Nat) (n : UInt64) :
    Reader.uint64 level (Json.nat n.toNat).tree = some n := by
  rw [Reader.uint64, below_tree level n.toNat_lt]
  rfl

theorem nullable_eq {read : Reader α} {level : Nat} {s : Syntax} (there : s ≠ .null) :
    Reader.nullable read level s = (read level s).map some := by
  cases s with
  | null => contradiction
  | _ => rfl

theorem nullable_orNull {read : Reader α} {write : α → Json} {level : Nat} {a : Option α}
    (reads : ∀ x ∈ a, read level (write x).tree = some x ∧ (write x).tree ≠ .null) :
    Reader.nullable read level (orNull write a).tree = some a := by
  cases a with
  | none => rfl
  | some x =>
    obtain ⟨same, present⟩ := reads x rfl
    exact (nullable_eq present).trans (congrArg _ same)

theorem list_tree {read : Reader α} {write : α → Json} {level : Nat} {as : List α}
    (each : ∀ a ∈ as, read (level + 1) (write a).tree = some a) :
    Reader.list read level (Json.arr (as.map write)).tree = some as := by
  rw [tree, itemTrees_eq, Reader.list]
  induction as with
  | nil => rfl
  | cons a rest ih =>
    have first := each a List.mem_cons_self
    have others := ih fun a later => each a (List.mem_cons_of_mem _ later)
    simp only [List.map_cons, List.mapM_cons, first, others, Option.bind_eq_bind, Option.bind_some,
      Option.pure_def]

theorem strings_tree (level : Nat) (ss : List String) :
    Reader.list .string level (Json.strings ss).tree = some ss := list_tree fun _ _ => rfl

namespace Record

def ofMembers (level : Nat) (members : List (String × Json)) : Record :=
  ⟨level, members.map fun m => (m.1, m.2.tree)⟩

theorem known_memberTrees {names : List String} {members : List (String × Json)}
    (known : ∀ m ∈ members, m.1 ∈ names) :
    Record.known names (memberTrees members) = some (members.map fun m => (m.1, m.2.tree)) := by
  induction members with
  | nil => rfl
  | cons m rest ih =>
    have first : names.contains m.1 = true := List.contains_iff_mem.mpr (known m List.mem_cons_self)
    have others := ih fun m later => known m (List.mem_cons_of_mem _ later)
    rw [memberTrees, Record.known, others, Option.map_some, if_pos first, List.map_cons]

theorem distinct_of_nodup {fields : List (String × Syntax)} (once : (fields.map Prod.fst).Nodup) :
    distinct fields = true := by
  induction fields with
  | nil => rfl
  | cons f rest ih =>
    obtain ⟨new, others⟩ := List.nodup_cons.mp once
    have first : ∀ g ∈ rest, g.1 ≠ f.1 := by
      rintro g later same
      exact new (same ▸ List.mem_map_of_mem later)
    simpa [distinct, ih others] using first

/-- Members that have some of the names, in their order, make a record. -/
theorem read_tree {names : List String} {members : List (String × Json)} (level : Nat)
    (ordered : (members.map Prod.fst).Sublist names) (once : names.Nodup) :
    Record.read names level (Json.obj members).tree = some (ofMembers (level + 1) members) := by
  have known : Record.known names (memberTrees members) =
      some (members.map fun m => (m.1, m.2.tree)) :=
    known_memberTrees fun m found => ordered.subset (List.mem_map_of_mem found)
  have apart : distinct (members.map fun m => (m.1, m.2.tree)) = true := by
    apply distinct_of_nodup
    rw [List.map_map]
    exact once.sublist ordered
  rw [tree, Record.read, known]
  simp [apart, ofMembers]

variable {β : Type} {level : Nat} {members : List (String × Json)} {name : String}
  {read : Reader α} {next : α → Option β}

/-- A record that is written with all its fields, and what is read out of it. -/
theorem read_then {names : List String} {next : Record → Option β}
    (complete : members.map Prod.fst = names) (once : names.Nodup) :
    (Record.read names level (Json.obj members).tree >>= next) =
      next (ofMembers (level + 1) members) := by
  subst complete
  exact congrArg (Option.bind · next) (read_tree level (.refl _) once)

theorem lookup_ofMembers :
    Dict.lookup name (ofMembers level members).fields = (Dict.lookup name members).map tree := by
  unfold ofMembers
  induction members with
  | nil => rfl
  | cons m rest ih => by_cases same : m.1 = name <;> simp [Dict.lookup, same, ih]

theorem required_then {j : Json} {a : α} (found : Dict.lookup name members = some j)
    (reads : read level j.tree = some a) :
    ((ofMembers level members).required name read >>= next) = next a := by
  rw [required, lookup_ofMembers, found, Option.map_some, Option.bind_some]
  exact congrArg (Option.bind · next) reads

theorem withDefault_then {j : Json} {a default : α} (found : Dict.lookup name members = some j)
    (reads : read level j.tree = some a) :
    ((ofMembers level members).withDefault name default read >>= next) = next a := by
  rw [withDefault, lookup_ofMembers, found]
  exact congrArg (Option.bind · next) reads

/-- A value that is written only where it is there. -/
theorem optional_then {next : Option α → Option β} {write : α → Json} {a : Option α}
    (found : Dict.lookup name members = a.map write)
    (reads : ∀ x ∈ a, read level (write x).tree = some x ∧ (write x).tree ≠ .null) :
    ((ofMembers level members).optional name read >>= next) = next a := by
  have same : (ofMembers level members).optional name read = some a := by
    rw [optional, withDefault, lookup_ofMembers, found]
    cases a with
    | none => rfl
    | some x =>
      obtain ⟨same, present⟩ := reads x rfl
      exact (nullable_eq present).trans (congrArg _ same)
  rw [same]
  rfl

/-- A value that is written as `null` where it is not there. -/
theorem orNull_then {next : Option α → Option β} {write : α → Json} {a : Option α}
    (found : Dict.lookup name members = some (orNull write a))
    (reads : ∀ x ∈ a, read level (write x).tree = some x ∧ (write x).tree ≠ .null) :
    ((ofMembers level members).optional name read >>= next) = next a :=
  withDefault_then found (nullable_orNull reads)

end Record

theorem lookup_present (name other : String) (write : α → Json) (a : Option α) :
    Dict.lookup name (present other write a) = if other = name then a.map write else none := by
  cases a with
  | none => simp [present, Dict.lookup]
  | some a => simp [present, Dict.lookup]

theorem present_sublist (name : String) (write : α → Json) (a : Option α) :
    ((present name write a).map Prod.fst).Sublist [name] := by
  cases a with
  | none => exact List.nil_sublist _
  | some a => exact List.Sublist.refl _

theorem membersAreWhole_append (xs ys : List (String × Json)) :
    membersAreWhole (xs ++ ys) = (membersAreWhole xs && membersAreWhole ys) := by
  induction xs with
  | nil => rfl
  | cons m rest ih => simp [membersAreWhole, ih, Bool.and_assoc]

theorem membersAreWhole_present (name : String) (write : α → Json) (a : Option α) :
    membersAreWhole (present name write a) = a.all fun x => (write x).isWhole := by
  cases a with
  | none => rfl
  | some a => simp [present, membersAreWhole]

theorem isWhole_orNull (write : α → Json) (a : Option α) :
    (orNull write a).isWhole = a.all fun x => (write x).isWhole := by
  cases a <;> rfl

theorem areWhole_map_of_mem {write : α → Json} {as : List α}
    (whole : ∀ a ∈ as, (write a).isWhole = true) : areWhole (as.map write) = true := by
  induction as with
  | nil => rfl
  | cons a rest ih =>
    have first := whole a List.mem_cons_self
    have others := ih fun a later => whole a (List.mem_cons_of_mem _ later)
    simp [areWhole, first, others]

theorem areWhole_map {write : α → Json} (whole : ∀ a, (write a).isWhole = true) (as : List α) :
    areWhole (as.map write) = true := areWhole_map_of_mem fun a _ => whole a

theorem isWhole_strings (ss : List String) : (strings ss).isWhole = true :=
  areWhole_map (fun _ => rfl) ss

end FleetRollout.Json
