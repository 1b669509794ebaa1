import FleetRollout.CommandLine.Arguments
import FleetRollout.Proofs.Dict
import FleetRollout.Proofs.Text.Pieces
import Mathlib.Data.List.Induction

/-! What arguments define. An argument defines one key or none, and of the arguments that define a
key the last one holds. Options that write out a map therefore give it back, in any order and among
arguments that define nothing. -/
namespace FleetRollout.CommandLine
open Text

/-- A text that can be a key: without an equals sign, and without a dash at its start. -/
structure IsKey (key : String) : Prop where
  free : '=' ∉ key.toList
  bare : key.toList.head? ≠ some '-'

instance : DecidablePred IsKey := fun key =>
  decidable_of_iff ('=' ∉ key.toList ∧ key.toList.head? ≠ some '-')
    ⟨fun ⟨free, bare⟩ => ⟨free, bare⟩, fun ⟨free, bare⟩ => ⟨free, bare⟩⟩

def dashes (n : Nat) : String := String.ofList (List.replicate n '-')

inductive Defines : String → String → String → Prop
  /-- The value may have equals signs of its own. -/
  | option (n : Nat) {key : String} (isKey : IsKey key) (value : String) :
      Defines (dashes n ++ key ++ "=" ++ value) key value
  | flag {n : Nat} {key : String} (long : 2 ≤ n) (isKey : IsKey key) :
      Defines (dashes n ++ key) key "true"

def DefinesNothing (argument : String) : Prop := ∀ key value, ¬ Defines argument key value

section Argument
variable {argument key value : String} {cs before after : List Char}

theorem toList_dashes (n : Nat) : (dashes n).toList = List.replicate n '-' := String.toList_ofList

theorem dashes_add_two (n : Nat) : dashes (n + 2) = "--" ++ dashes n := by
  rw [← String.toList_inj, String.toList_append, toList_dashes, toList_dashes]
  rfl

theorem exists_dashes (cs : List Char) :
    ∃ n, String.ofList cs = dashes n ++ String.ofList (trimStartOf '-' cs) := by
  obtain ⟨n, same⟩ := exists_replicate_append_trimStartOf '-' cs
  refine ⟨n, ?_⟩
  rw [dashes, ← String.ofList_append, ← same]

theorem isKey_trimmed (free : '=' ∉ cs) : IsKey (String.ofList (trimStartOf '-' cs)) := by
  constructor
  · rw [String.toList_ofList]
    exact fun found => free (mem_of_mem_trimStartOf found)
  · rw [String.toList_ofList]
    exact head?_trimStartOf '-' cs

theorem IsKey.free_dashed (isKey : IsKey key) (n : Nat) :
    '=' ∉ List.replicate n '-' ++ key.toList := by
  intro found
  obtain dash | inside := List.mem_append.mp found
  · exact absurd (List.eq_of_mem_replicate dash) (by decide)
  · exact isKey.free inside

theorem definition?_of_cut (cutUp : cut '=' argument.toList = some (before, after)) :
    definition? argument = some (String.ofList (trimStartOf '-' before), String.ofList after) := by
  simp only [definition?, cutUp]

theorem definition?_of_flag (uncut : cut '=' argument.toList = none)
    (starts : argument.toList = '-' :: '-' :: cs) :
    definition? argument = some (String.ofList (trimStartOf '-' cs), "true") := by
  rw [starts] at uncut
  simp only [definition?, starts, uncut]
  rfl

theorem definition?_of_other (uncut : cut '=' argument.toList = none)
    (other : ¬ ['-', '-'] <+: argument.toList) : definition? argument = none := by
  simp only [definition?, uncut]
  split
  · rename_i rest starts
    exact absurd ⟨rest, starts.symm⟩ other
  · rfl

theorem Defines.definition?_eq (defines : Defines argument key value) :
    definition? argument = some (key, value) := by
  cases defines with
  | option n isKey value =>
    have whole : (dashes n ++ key ++ "=" ++ value).toList =
        (List.replicate n '-' ++ key.toList) ++ '=' :: value.toList := by
      simp [toList_dashes]
    have cutUp := cut_append (isKey.free_dashed n) value.toList
    rw [← whole] at cutUp
    rw [definition?_of_cut cutUp, trimStartOf_replicate_append n isKey.bare, String.ofList_toList,
      String.ofList_toList]
  | @flag n key long isKey =>
    obtain ⟨m, rfl⟩ := Nat.exists_eq_add_of_le' long
    have starts : (dashes (m + 2) ++ key).toList =
        '-' :: '-' :: (List.replicate m '-' ++ key.toList) := by
      rw [String.toList_append, toList_dashes]
      rfl
    have uncut : cut '=' (dashes (m + 2) ++ key).toList = none := by
      rw [String.toList_append, toList_dashes]
      exact cut_of_not_mem (isKey.free_dashed (m + 2))
    rw [definition?_of_flag uncut starts, trimStartOf_replicate_append m isKey.bare,
      String.ofList_toList]

theorem defines_of_cut (cutUp : cut '=' argument.toList = some (before, after)) :
    Defines argument (String.ofList (trimStartOf '-' before)) (String.ofList after) := by
  obtain ⟨whole, free⟩ := cut_eq_some cutUp
  obtain ⟨n, dashed⟩ := exists_dashes before
  have spelled : argument =
      dashes n ++ String.ofList (trimStartOf '-' before) ++ "=" ++ String.ofList after := by
    rw [← dashed, ← String.toList_inj, whole]
    simp
  rw [spelled]
  exact .option n (isKey_trimmed free) _

theorem defines_of_flag (uncut : cut '=' argument.toList = none)
    (starts : argument.toList = '-' :: '-' :: cs) :
    Defines argument (String.ofList (trimStartOf '-' cs)) "true" := by
  have free := cut_eq_none.mp uncut
  rw [starts, List.mem_cons, List.mem_cons, not_or, not_or] at free
  obtain ⟨n, dashed⟩ := exists_dashes cs
  have spelled : argument = dashes (n + 2) ++ String.ofList (trimStartOf '-' cs) := by
    rw [dashes_add_two, String.append_assoc, ← dashed, ← String.toList_inj, starts]
    simp
  rw [spelled]
  exact .flag (Nat.le_add_left 2 n) (isKey_trimmed free.2.2)

/-- An argument defines what is read out of it. -/
theorem definition?_eq_some :
    definition? argument = some (key, value) ↔ Defines argument key value := by
  refine ⟨fun defined => ?_, Defines.definition?_eq⟩
  cases cutUp : cut '=' argument.toList with
  | some parts =>
    rw [definition?_of_cut cutUp] at defined
    obtain ⟨rfl, rfl⟩ := Prod.mk.inj (Option.some.inj defined)
    exact defines_of_cut cutUp
  | none =>
    by_cases flag : ['-', '-'] <+: argument.toList
    · obtain ⟨rest, starts⟩ := flag
      rw [definition?_of_flag cutUp starts.symm] at defined
      obtain ⟨rfl, rfl⟩ := Prod.mk.inj (Option.some.inj defined)
      exact defines_of_flag cutUp starts.symm
    · rw [definition?_of_other cutUp flag] at defined
      contradiction

theorem definition?_eq_none :
    definition? argument = none ↔ '=' ∉ argument.toList ∧ ¬ ['-', '-'] <+: argument.toList := by
  rw [← cut_eq_none]
  refine ⟨fun nothing => ?_, fun ⟨uncut, other⟩ => definition?_of_other uncut other⟩
  have uncut : cut '=' argument.toList = none := by
    cases cutUp : cut '=' argument.toList with
    | none => rfl
    | some parts =>
      rw [definition?_of_cut cutUp] at nothing
      contradiction
  refine ⟨uncut, ?_⟩
  rintro ⟨rest, starts⟩
  rw [definition?_of_flag uncut starts.symm] at nothing
  contradiction

theorem definesNothing_iff : DefinesNothing argument ↔ definition? argument = none := by
  simp [DefinesNothing, ← definition?_eq_some, Option.eq_none_iff_forall_ne_some]

end Argument

section Arguments
variable {arguments : List String} {argument key value : String}

/-- The value that the last argument to define a key gives it. -/
def LastDefines (arguments : List String) (key value : String) : Prop :=
  ∃ argument later, argument :: later <:+ arguments ∧ Defines argument key value ∧
    ∀ other ∈ later, ∀ value, ¬ Defines other key value

theorem parse_concat_of_defines (arguments : List String) (defines : Defines argument key value) :
    parse (arguments ++ [argument]) = (parse arguments).insert key value := by
  simp [parse, Dict.ofList, List.foldl_append, defines.definition?_eq]

theorem parse_concat_of_nothing (arguments : List String) (nothing : DefinesNothing argument) :
    parse (arguments ++ [argument]) = parse arguments := by
  simp [parse, definesNothing_iff.mp nothing]

/-- An argument that defines a key takes its earlier value away, and leaves other keys alone. -/
theorem get?_parse_concat :
    (parse (arguments ++ [argument])).get? key = some value ↔
      Defines argument key value ∨
        (∀ other, ¬ Defines argument key other) ∧ (parse arguments).get? key = some value := by
  cases defined : definition? argument with
  | none =>
    have nothing := definesNothing_iff.mpr defined
    rw [parse_concat_of_nothing arguments nothing]
    simp [nothing key]
  | some entry =>
    obtain ⟨name, text⟩ := entry
    have defines := definition?_eq_some.mp defined
    rw [parse_concat_of_defines arguments defines, Dict.get?_insert]
    simp only [← definition?_eq_some, defined, Option.some.injEq, Prod.mk.injEq]
    by_cases same : name = key
    · simp [same]
    · simp [same]

theorem lastDefines_concat :
    LastDefines (arguments ++ [argument]) key value ↔
      Defines argument key value ∨
        (∀ other, ¬ Defines argument key other) ∧ LastDefines arguments key value := by
  constructor
  · rintro ⟨last, later, whole, defines, only⟩
    obtain impossible | ⟨front, parts, ends⟩ := List.suffix_concat_iff.mp whole
    · contradiction
    · cases front with
      | nil =>
        obtain ⟨rfl, rfl⟩ := List.cons.inj parts
        exact .inl defines
      | cons first others =>
        obtain ⟨rfl, rfl⟩ := List.cons.inj parts
        obtain ⟨before, here⟩ := List.forall_mem_append.mp only
        exact .inr ⟨here argument List.mem_cons_self, last, others, ends, defines, before⟩
  · rintro (defines | ⟨here, last, later, ends, defines, before⟩)
    · exact ⟨argument, [], List.suffix_append _ _, defines, nofun⟩
    · refine ⟨last, later ++ [argument], ?_, defines, ?_⟩
      · exact List.suffix_concat_iff.mpr (.inr ⟨last :: later, rfl, ends⟩)
      · refine List.forall_mem_append.mpr ⟨before, ?_⟩
        intro other found
        obtain rfl := List.mem_singleton.mp found
        exact here

theorem get?_parse (arguments : List String) (key value : String) :
    (parse arguments).get? key = some value ↔ LastDefines arguments key value := by
  induction arguments using List.reverseRecOn with
  | nil => simp [parse, Dict.ofList, LastDefines]
  | append_singleton arguments argument ih => rw [get?_parse_concat, lastDefines_concat, ih]

theorem contains_parse_concat :
    (parse (arguments ++ [argument])).contains key = true ↔
      (∃ value, Defines argument key value) ∨ (parse arguments).contains key = true := by
  simp only [Dict.contains_iff, get?_parse_concat]
  constructor
  · rintro ⟨value, defines | ⟨_, found⟩⟩
    · exact .inl ⟨value, defines⟩
    · exact .inr ⟨value, found⟩
  · rintro (⟨value, defines⟩ | ⟨value, found⟩)
    · exact ⟨value, .inl defines⟩
    · by_cases here : ∃ other, Defines argument key other
      · obtain ⟨other, defines⟩ := here
        exact ⟨other, .inl defines⟩
      · exact ⟨value, .inr ⟨not_exists.mp here, found⟩⟩

theorem contains_parse (arguments : List String) (key : String) :
    (parse arguments).contains key = true ↔
      ∃ argument ∈ arguments, ∃ value, Defines argument key value := by
  induction arguments using List.reverseRecOn with
  | nil => simp [parse, Dict.ofList, Dict.contains]
  | append_singleton arguments argument ih =>
    rw [contains_parse_concat, ih]
    simp [or_and_right, exists_or, or_comm]

end Arguments

/-- Arguments write out entries in their order, among others that define nothing. -/
inductive WritesOut : List String → List (String × String) → Prop
  | nil : WritesOut [] []
  | option {arguments : List String} {entries : List (String × String)} (key value : String)
      (rest : WritesOut arguments entries) :
      WritesOut (("--" ++ key ++ "=" ++ value) :: arguments) ((key, value) :: entries)
  | other {argument : String} {arguments : List String} {entries : List (String × String)}
      (nothing : DefinesNothing argument) (rest : WritesOut arguments entries) :
      WritesOut (argument :: arguments) entries

theorem WritesOut.definitions {arguments : List String} {entries : List (String × String)}
    (writes : WritesOut arguments entries) (keys : ∀ e ∈ entries, IsKey e.1) :
    arguments.filterMap definition? = entries := by
  induction writes with
  | nil => rfl
  | option key value rest ih =>
    obtain ⟨isKey, others⟩ := List.forall_mem_cons.mp keys
    have defines : Defines ("--" ++ key ++ "=" ++ value) key value := .option 2 isKey value
    rw [List.filterMap_cons_some defines.definition?_eq, ih others]
  | other nothing rest ih => rw [List.filterMap_cons_none (definesNothing_iff.mp nothing), ih keys]

/-- Every argument is read as it is spelled, one key or none. For each key that arguments define the
last definition holds, and no other key is there. So arguments that write out the entries of a map,
in any order and among others that define nothing, give the map back. -/
theorem arguments_hold_last_definitions (arguments : List String) :
    (∀ argument key value,
      definition? argument = some (key, value) ↔ Defines argument key value) ∧
    (∀ argument, DefinesNothing argument ↔
      '=' ∉ argument.toList ∧ ¬ ['-', '-'] <+: argument.toList) ∧
    (∀ key value, (parse arguments).get? key = some value ↔ LastDefines arguments key value) ∧
    (∀ key, (parse arguments).contains key = true ↔
      ∃ argument ∈ arguments, ∃ value, Defines argument key value) ∧
    ∀ (d : Dict String) (entries : List (String × String)), Dict.Ordered d.entries →
      (∀ key ∈ d.keys, IsKey key) → entries.Perm d.entries → WritesOut arguments entries →
        parse arguments = d := by
  refine ⟨fun _ _ _ => definition?_eq_some, fun _ => definesNothing_iff.trans definition?_eq_none,
    get?_parse arguments, contains_parse arguments, ?_⟩
  intro d entries ordered keys perm writes
  have areKeys : ∀ e ∈ entries, IsKey e.1 :=
    fun e found => keys e.1 (List.mem_map_of_mem (perm.mem_iff.mp found))
  rw [parse, writes.definitions areKeys]
  exact Dict.ofList_of_perm ordered perm

/-- Options in another order than that of the keys, one of them with an empty key. -/
theorem arguments_hold_last_definitions_shuffled :
    let arguments := ["-x", "--release=a=b", "stray", "--=--", "--dry-run=true"]
    let entries := [("release", "a=b"), ("", "--"), ("dry-run", "true")]
    (∀ key ∈ (Dict.ofList entries).keys, IsKey key) ∧ WritesOut arguments entries ∧
      parse arguments = Dict.ofList entries := by
  intro arguments entries
  have keys : ∀ key ∈ (Dict.ofList entries).keys, IsKey key := by decide +kernel
  have writes : WritesOut arguments entries :=
    .other (definesNothing_iff.mpr (by decide)) <| .option "release" "a=b" <|
      .other (definesNothing_iff.mpr (by decide)) <| .option "" "--" <|
        .option "dry-run" "true" .nil
  have perm : entries.Perm (Dict.ofList entries).entries := by decide +kernel
  obtain ⟨_, _, _, _, givesBack⟩ := arguments_hold_last_definitions arguments
  exact ⟨keys, writes, givesBack _ entries (Dict.ordered_ofList entries) keys perm writes⟩

example : parse ["--release=app-1", "--force", "stray", "--group=a=b", "-release=app-2"] =
    .ofList [("force", "true"), ("group", "a=b"), ("release", "app-2")] := by decide +kernel

end FleetRollout.CommandLine
