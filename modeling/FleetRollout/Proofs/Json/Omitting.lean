import FleetRollout.Proofs.Dict
import FleetRollout.Proofs.Json.Rereading

/-! Objects that leave fields of a record out. Of each field that is kept the value is read, in
whatever order they stand and whatever else the object has; of the others the default is taken. -/
namespace FleetRollout.Json.Record

/-- An object with those fields that are kept, in any order and among members that are no fields. -/
def Keeps (keep : String → Bool) (fields : List (String × Syntax)) (object : Syntax) : Prop :=
  ∃ members others : List (String × Syntax),
    object = .obj (members.map fun m => (some m.1, m.2)) ∧
    members.Perm (fields.filter (fun f => keep f.1) ++ others) ∧
    ∀ m ∈ others, m.1 ∉ fields.map Prod.fst

structure HasKept (keep : String → Bool) (fields : List (String × Syntax)) (level : Nat)
    (r : Record) : Prop where
  level : r.level = level
  lookup : ∀ name, Dict.lookup name r.fields = if keep name then Dict.lookup name fields else none

variable {keep : String → Bool} {fields : List (String × Syntax)} {names : List String}

theorem known_members (names : List String) (members : List (String × Syntax)) :
    known names (members.map fun m => (some m.1, m.2)) =
      some (members.filter fun m => names.contains m.1) := by
  induction members with
  | nil => rfl
  | cons m rest ih => rw [List.map_cons, known, ih, Option.map_some, List.filter_cons]

/-- Of the members of an object the fields are left, in some order. -/
theorem perm_filter_fields {members others : List (String × Syntax)}
    (perm : members.Perm (fields.filter (fun f => keep f.1) ++ others))
    (unknown : ∀ m ∈ others, m.1 ∉ fields.map Prod.fst) :
    (members.filter fun m => (fields.map Prod.fst).contains m.1).Perm
      (fields.filter fun f => keep f.1) := by
  have kept : (fields.filter fun f => keep f.1).filter
      (fun m => (fields.map Prod.fst).contains m.1) = fields.filter fun f => keep f.1 := by
    apply List.filter_eq_self.mpr
    intro f found
    exact List.contains_iff_mem.mpr (List.mem_map_of_mem (List.mem_of_mem_filter found))
  have none : others.filter (fun m => (fields.map Prod.fst).contains m.1) = [] := by
    apply List.filter_eq_nil_iff.mpr
    intro m found known
    exact unknown m found (List.contains_iff_mem.mp known)
  have left := perm.filter fun m => (fields.map Prod.fst).contains m.1
  rwa [List.filter_append, kept, none, List.append_nil] at left

variable {α β : Type} {level : Nat}

/-- What is read out of an object that keeps some of the fields of a record. -/
theorem keeps_then {object : Syntax} {next : Record → Option β} {b : β}
    (keeps : Keeps keep fields object) (complete : fields.map Prod.fst = names)
    (once : names.Nodup) (reads : ∀ r, HasKept keep fields (level + 1) r → next r = some b) :
    (Record.read names level object >>= next) = some b := by
  obtain ⟨members, others, rfl, perm, unknown⟩ := keeps
  subst complete
  have left := perm_filter_fields perm unknown
  have keptOnce : ((fields.filter fun f => keep f.1).map Prod.fst).Nodup :=
    once.sublist (List.filter_sublist.map Prod.fst)
  have apart := distinct_of_nodup ((left.map Prod.fst).nodup_iff.mpr keptOnce)
  have opened : Record.read (fields.map Prod.fst) level
      (.obj (members.map fun m => (some m.1, m.2))) =
        some ⟨level + 1, members.filter fun m => (fields.map Prod.fst).contains m.1⟩ := by
    rw [Record.read, known_members]
    exact if_pos apart
  rw [opened]
  apply reads
  refine ⟨rfl, fun name => ?_⟩
  rw [Dict.lookup_perm left keptOnce, Dict.lookup_filter]

section Fields
variable {r : Record} {name : String} {s : Syntax} {read : Reader α}

theorem HasKept.withDefault_then {a default : α} {next : α → Option β}
    (has : HasKept keep fields level r) (found : Dict.lookup name fields = some s)
    (reads : read level s = some a) :
    (r.withDefault name default read >>= next) = next (if keep name then a else default) := by
  rw [withDefault, has.lookup, has.level]
  cases keep name with
  | true =>
    rw [if_pos rfl, found]
    exact congrArg (Option.bind · next) reads
  | false => rfl

theorem HasKept.optional_then {a : Option α} {next : Option α → Option β}
    (has : HasKept keep fields level r) (found : Dict.lookup name fields = some s)
    (reads : Reader.nullable read level s = some a) :
    (r.optional name read >>= next) = next (if keep name then a else none) :=
  has.withDefault_then found reads

end Fields

end FleetRollout.Json.Record
