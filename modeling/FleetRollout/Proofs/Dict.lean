import FleetRollout.Dict
import Mathlib.Data.List.Nodup
import Mathlib.Data.String.Basic

/-! The entries of a map as a list: they stand in the order of their keys, and apart from their
order they are what was written last under each key. -/
namespace FleetRollout.Dict
variable {α : Type} {key : String} {value : α} {xs ys entries : List (String × α)}

/-- Entries in the order of their keys, with no key twice. -/
def Ordered (entries : List (String × α)) : Prop := (entries.map Prod.fst).Pairwise (· < ·)

theorem Ordered.nodup (ordered : Ordered entries) : (entries.map Prod.fst).Nodup :=
  ordered.imp fun before => ne_of_lt before

theorem Ordered.filter (ordered : Ordered entries) (keep : String × α → Bool) :
    Ordered (entries.filter keep) :=
  List.Pairwise.sublist (List.filter_sublist.map Prod.fst) ordered

theorem ordered_cons {e : String × α} :
    Ordered (e :: entries) ↔ (∀ other ∈ entries, e.1 < other.1) ∧ Ordered entries := by
  simp [Ordered]

theorem filter_ne_eq_self (absent : key ∉ entries.map Prod.fst) :
    (entries.filter fun e => e.1 ≠ key) = entries := by
  refine List.filter_eq_self.mpr fun e member => ?_
  have ne : e.1 ≠ key := fun same => absent (same ▸ List.mem_map_of_mem member)
  simpa using ne

/-- Entries of other keys stay. -/
theorem perm_place (ordered : Ordered entries) (key : String) (value : α) :
    (place key value entries).Perm ((key, value) :: entries.filter fun e => e.1 ≠ key) := by
  induction entries with
  | nil => exact .refl _
  | cons e rest ih =>
    obtain ⟨k, v⟩ := e
    obtain ⟨first, ordered⟩ := ordered_cons.mp ordered
    have others (before : key ≤ k) : (rest.filter fun e => e.1 ≠ key) = rest := by
      refine filter_ne_eq_self fun member => ?_
      obtain ⟨e, member, same⟩ := List.mem_map.mp member
      exact (before.trans_lt (first e member)).ne same.symm
    unfold place
    split
    · rename_i same
      subst same
      rw [List.filter_cons_of_neg (by simp), others le_rfl]
    · rename_i ne
      split
      · rename_i before
        rw [List.filter_cons_of_pos (by simpa using ne), others before.le]
      · rw [List.filter_cons_of_pos (by simpa using ne)]
        exact ((ih ordered).cons _).trans (.swap _ _ _)

theorem ordered_place (ordered : Ordered entries) (key : String) (value : α) :
    Ordered (place key value entries) := by
  induction entries with
  | nil => simp [place, Ordered]
  | cons e rest ih =>
    obtain ⟨k, v⟩ := e
    have whole := ordered
    obtain ⟨first, ordered⟩ := ordered_cons.mp ordered
    unfold place
    split
    · rename_i same
      subst same
      exact ordered_cons.mpr ⟨first, ordered⟩
    · rename_i ne
      split
      · rename_i before
        refine ordered_cons.mpr ⟨fun other member => ?_, whole⟩
        obtain rfl | member := List.mem_cons.mp member
        · exact before
        · exact before.trans (first other member)
      · rename_i after
        refine ordered_cons.mpr ⟨fun other member => ?_, ih ordered⟩
        obtain rfl | member := List.mem_cons.mp ((perm_place ordered key value).mem_iff.mp member)
        · exact lt_of_le_of_ne (not_lt.mp after) ne
        · exact first other (List.mem_of_mem_filter member)

/-- What comes after all entries is put last. -/
theorem place_last (last : ∀ e ∈ entries, e.1 < key) :
    place key value entries = entries ++ [(key, value)] := by
  induction entries with
  | nil => rfl
  | cons e rest ih =>
    obtain ⟨k, v⟩ := e
    have before : k < key := last (k, v) List.mem_cons_self
    rw [place, if_neg before.ne, if_neg before.le.not_gt,
      ih fun e member => last e (List.mem_cons_of_mem _ member)]
    rfl

theorem ordered_foldl_insert (entries : List (String × α)) {d : Dict α}
    (ordered : Ordered d.entries) :
    Ordered (entries.foldl (fun d (k, v) => d.insert k v) d).entries := by
  induction entries generalizing d with
  | nil => exact ordered
  | cons e rest ih => exact ih (ordered_place ordered _ _)

theorem ordered_ofList (entries : List (String × α)) : Ordered (ofList entries).entries :=
  ordered_foldl_insert entries List.Pairwise.nil

theorem foldl_insert_ordered (ordered : Ordered (xs ++ ys)) :
    ys.foldl (fun d (k, v) => d.insert k v) (⟨xs⟩ : Dict α) = ⟨xs ++ ys⟩ := by
  induction ys generalizing xs with
  | nil => simp
  | cons e rest ih =>
    obtain ⟨k, v⟩ := e
    have last : ∀ e ∈ xs, e.1 < k := by
      unfold Ordered at ordered
      rw [List.map_append, List.pairwise_append] at ordered
      intro e member
      exact ordered.2.2 _ (List.mem_map_of_mem member) _ (by simp)
    calc
      _ = rest.foldl (fun d (k, v) => d.insert k v) (⟨xs ++ [(k, v)]⟩ : Dict α) := by
        rw [← place_last last]
        rfl
      _ = ⟨xs ++ (k, v) :: rest⟩ := by
        rw [ih (by simpa using ordered)]
        simp

/-- A map is the map of its entries. -/
theorem ofList_entries {d : Dict α} (ordered : Ordered d.entries) : ofList d.entries = d :=
  foldl_insert_ordered (show Ordered ([] ++ d.entries) from ordered)

theorem lookup_eq_some_iff (nodup : (entries.map Prod.fst).Nodup) :
    lookup key entries = some value ↔ (key, value) ∈ entries := by
  induction entries with
  | nil => simp [lookup]
  | cons e rest ih =>
    obtain ⟨k, v⟩ := e
    obtain ⟨new, nodup⟩ := List.nodup_cons.mp nodup
    by_cases same : k = key
    · subst same
      have other : (k, value) ∉ rest := fun member => new (List.mem_map.mpr ⟨_, member, rfl⟩)
      simp [lookup, other, eq_comm]
    · simp [lookup, same, ih nodup, Ne.symm same]

/-- With no key twice the order of entries does not matter. -/
theorem lookup_perm (perm : xs.Perm ys) (nodup : (ys.map Prod.fst).Nodup) (key : String) :
    lookup key xs = lookup key ys := by
  have nodup' : (xs.map Prod.fst).Nodup := (perm.map Prod.fst).nodup_iff.mpr nodup
  apply Option.ext
  intro value
  rw [lookup_eq_some_iff nodup', lookup_eq_some_iff nodup]
  exact perm.mem_iff

theorem lookup_isSome_iff : (lookup key entries).isSome ↔ key ∈ entries.map Prod.fst := by
  induction entries with
  | nil => simp [lookup]
  | cons e rest ih =>
    obtain ⟨k, v⟩ := e
    by_cases same : k = key
    · simp [lookup, same]
    · simp [lookup, same, ih, Ne.symm same]

/-- Entries that are in order are known by what is found among them. -/
theorem Ordered.ext (first : Ordered xs) (second : Ordered ys)
    (same : ∀ key, lookup key xs = lookup key ys) : xs = ys := by
  have members (e : String × α) : e ∈ xs ↔ e ∈ ys := by
    rw [← lookup_eq_some_iff first.nodup, same, lookup_eq_some_iff second.nodup]
  have once : xs.Nodup := List.Nodup.of_map _ first.nodup
  have perm : xs.Perm ys :=
    (List.perm_ext_iff_of_nodup once (List.Nodup.of_map _ second.nodup)).mpr members
  have apart (a b : String × α) (_ : a ∈ xs) (_ : b ∈ ys) (before : a.1 < b.1)
      (after : b.1 < a.1) : a = b := absurd after before.not_gt
  exact perm.eq_of_pairwise apart (List.pairwise_map.mp first) (List.pairwise_map.mp second)

/-- The entries of a map give it back in any order. -/
theorem ofList_of_perm {d : Dict α} (ordered : Ordered d.entries) (perm : xs.Perm d.entries) :
    ofList xs = d := by
  suffices same : (ofList xs).entries = d.entries from congrArg Dict.mk same
  refine (ordered_ofList xs).ext ordered fun key => ?_
  calc
    lookup key (ofList xs).entries = lookup key xs.reverse := get?_ofList xs key
    _ = lookup key d.entries := lookup_perm (xs.reverse_perm.trans perm) ordered.nodup key

end FleetRollout.Dict
