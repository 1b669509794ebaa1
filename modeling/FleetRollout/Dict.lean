/-! Finite maps with text keys, kept as entries in the order of their keys. Of two writes to one
key the last one holds. -/
namespace FleetRollout

/-- A finite map; its entries are written by `insert` only. -/
structure Dict (α : Type) where
  entries : List (String × α)
deriving DecidableEq, Repr

namespace Dict
variable {α : Type}

def lookup (key : String) : List (String × α) → Option α
  | [] => none
  | (k, v) :: rest => if k = key then some v else lookup key rest

/-- Puts an entry in its place, over an entry of the same key. -/
def place (key : String) (value : α) : List (String × α) → List (String × α)
  | [] => [(key, value)]
  | (k, v) :: rest =>
    if k = key then (key, value) :: rest
    else if key < k then (key, value) :: (k, v) :: rest
    else (k, v) :: place key value rest

def empty : Dict α := ⟨[]⟩

instance : Inhabited (Dict α) := ⟨empty⟩

def get? (d : Dict α) (key : String) : Option α := lookup key d.entries

def contains (d : Dict α) (key : String) : Bool := (d.get? key).isSome

def insert (d : Dict α) (key : String) (value : α) : Dict α := ⟨place key value d.entries⟩

def erase (d : Dict α) (key : String) : Dict α := ⟨d.entries.filter fun e => e.1 ≠ key⟩

def retain (d : Dict α) (keep : String → Bool) : Dict α := ⟨d.entries.filter fun e => keep e.1⟩

def keys (d : Dict α) : List String := d.entries.map Prod.fst

def size (d : Dict α) : Nat := d.entries.length

def isEmpty (d : Dict α) : Bool := d.entries.isEmpty

/-- The map of some entries; a later entry wins over an earlier one of its key. -/
def ofList (entries : List (String × α)) : Dict α :=
  entries.foldl (fun d (k, v) => d.insert k v) empty

theorem lookup_place (key other : String) (value : α) (entries : List (String × α)) :
    lookup other (place key value entries) =
      if key = other then some value else lookup other entries := by
  induction entries with
  | nil => simp [place, lookup]
  | cons e rest ih =>
    obtain ⟨k, v⟩ := e
    unfold place
    split
    · subst k; by_cases h : key = other <;> simp [lookup, h]
    · split
      · by_cases h : key = other <;> simp [lookup, h]
      · simp only [lookup, ih]
        by_cases h : key = other <;> by_cases h' : k = other <;> simp_all

@[simp] theorem get?_empty (key : String) : (empty : Dict α).get? key = none := rfl

theorem get?_insert (d : Dict α) (key other : String) (value : α) :
    (d.insert key value).get? other = if key = other then some value else d.get? other :=
  lookup_place key other value d.entries

theorem lookup_filter (keep : String → Bool) (key : String) (entries : List (String × α)) :
    lookup key (entries.filter fun e => keep e.1) =
      if keep key then lookup key entries else none := by
  induction entries with
  | nil => simp [lookup]
  | cons e rest ih =>
    obtain ⟨k, v⟩ := e
    by_cases same : k = key
    · subst k; by_cases kept : keep key <;> simp [lookup, kept, ih]
    · by_cases kept : keep k <;> simp [lookup, kept, same, ih]

theorem get?_retain (d : Dict α) (keep : String → Bool) (key : String) :
    (d.retain keep).get? key = if keep key then d.get? key else none :=
  lookup_filter keep key d.entries

theorem get?_erase (d : Dict α) (key other : String) :
    (d.erase key).get? other = if other = key then none else d.get? other := by
  have erased : d.erase key = d.retain fun k => decide (k ≠ key) := rfl
  rw [erased, get?_retain]
  by_cases same : other = key <;> simp [same]

theorem get?_foldl_insert {entries : List (String × α)} {key : String} {value : α} (d : Dict α)
    (found : (entries.foldl (fun d (k, v) => d.insert k v) d).get? key = some value) :
    (key, value) ∈ entries ∨ d.get? key = some value := by
  induction entries generalizing d with
  | nil => exact .inr found
  | cons e rest ih =>
    obtain later | before := ih _ found
    · exact .inl (List.mem_cons_of_mem _ later)
    · rw [get?_insert] at before
      split at before
      · rename_i same
        obtain rfl := Option.some.inj before
        rw [← same]
        exact .inl List.mem_cons_self
      · exact .inr before

/-- What a map of some entries holds is one of them. -/
theorem mem_of_get?_ofList {entries : List (String × α)} {key : String} {value : α}
    (found : (ofList entries).get? key = some value) : (key, value) ∈ entries := by
  obtain member | before := get?_foldl_insert empty found
  · exact member
  · contradiction

theorem lookup_append (key : String) (xs ys : List (String × α)) :
    lookup key (xs ++ ys) = (lookup key xs).or (lookup key ys) := by
  induction xs with
  | nil => rfl
  | cons e rest ih =>
    obtain ⟨k, v⟩ := e
    by_cases same : k = key <;> simp [lookup, same, ih]

theorem lookup_map {β : Type} (name : β → String) (value : β → α) (xs : List β) (key : String) :
    lookup key (xs.map fun x => (name x, value x)) =
      (xs.find? fun x => name x = key).map value := by
  induction xs with
  | nil => rfl
  | cons x rest ih => by_cases same : name x = key <;> simp [lookup, same, ih]

theorem get?_foldl_insert_eq (entries : List (String × α)) (d : Dict α) (key : String) :
    (entries.foldl (fun d (k, v) => d.insert k v) d).get? key =
      (lookup key entries.reverse).or (d.get? key) := by
  induction entries generalizing d with
  | nil => rfl
  | cons e rest ih =>
    rw [List.foldl_cons, ih, get?_insert, List.reverse_cons, lookup_append]
    by_cases same : e.1 = key <;> simp [lookup, same]

/-- A map of some entries holds the last one of each key. -/
theorem get?_ofList (entries : List (String × α)) (key : String) :
    (ofList entries).get? key = lookup key entries.reverse := by
  rw [ofList, get?_foldl_insert_eq, get?_empty, Option.or_none]

theorem contains_iff {d : Dict α} {key : String} :
    d.contains key = true ↔ ∃ value, d.get? key = some value := Option.isSome_iff_exists

end Dict
end FleetRollout
