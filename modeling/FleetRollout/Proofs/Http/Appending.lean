import FleetRollout.Proofs.Http.Names

/-! Segments behind a path. Whatever is put behind a path, some of it stays and the rest goes on with
texts in which nothing is passed over. So the path tells what was put behind it only if that is
names. -/
namespace FleetRollout.Http

open Text

variable {c : Char} {text : List Char} {parts start : List (List Char)} {kind : SchemeKind}
  {s : String} {segments : List String}

/-- Whether a text stands for characters of which none is passed over. -/
def Solid (text : List Char) : Prop :=
  ∃ cs, decoded text = utf8 cs ∧ ∀ c ∈ cs, isPassedOver c = false

/-- The second path starts as the first one does, and goes on with texts in which nothing is passed
over. -/
def Continues (start result : List (List Char)) : Prop :=
  ∃ m new, result = start.take m ++ new ∧ ∀ text ∈ new, Solid text

theorem Continues.refl (parts : List (List Char)) : Continues parts parts :=
  ⟨parts.length, [], by rw [List.take_length, List.append_nil], nofun⟩

theorem Continues.trans {middle result : List (List Char)} (first : Continues start middle)
    (second : Continues middle result) : Continues start result := by
  obtain ⟨m, new, rfl, solid⟩ := first
  obtain ⟨m', new', rfl, solid'⟩ := second
  refine ⟨min m' m, new.take (m' - (start.take m).length) ++ new', ?_, ?_⟩
  · rw [List.take_append, List.take_take, List.append_assoc]
  · intro text found
    obtain old | added := List.mem_append.mp found
    · exact solid text (List.mem_of_mem_take old)
    · exact solid' text added

theorem Continues.of_solid (solid : ∀ text ∈ parts, Solid text) : Continues start parts :=
  ⟨0, parts, rfl, solid⟩

theorem Continues.concat (continues : Continues start parts) (solid : Solid text) :
    Continues start (parts ++ [text]) := by
  apply continues.trans
  refine ⟨parts.length, [text], by rw [List.take_length], ?_⟩
  intro other found
  rwa [List.mem_singleton.mp found]

theorem Continues.back (last : List Char) (rest : List (List Char)) :
    Continues (last :: rest).reverse rest.reverse := by
  refine ⟨rest.length, [], ?_, nofun⟩
  rw [List.reverse_cons, List.append_nil, List.take_left' List.length_reverse]

theorem Continues.openSegments (parts : List (List Char)) : Continues parts (openSegments parts) := by
  unfold FleetRollout.Http.openSegments
  split
  · exact .of_solid nofun
  · exact .refl parts

theorem Solid.of_kept {escapes : List Char} (percent : '%' ∈ escapes) (cs : List Char) :
    Solid (escape escapes (kept cs)) :=
  ⟨kept cs, decoded_escape percent _, fun _ found => (mem_of_mem_kept found).2⟩

theorem Solid.nil : Solid [] := ⟨[], rfl, nofun⟩

theorem isPassedOver_of_isAlpha (alpha : c.isAlpha = true) : isPassedOver c = false := by
  rw [Bool.eq_false_iff]
  intro passed
  simp only [isPassedOver, Bool.or_eq_true, decide_eq_true_eq] at passed
  rcases passed with (rfl | rfl) | rfl
  all_goals
    revert alpha
    decide

theorem Solid.drive {letter : Char} (alpha : letter.isAlpha = true) : Solid [letter, ':'] := by
  refine ⟨[letter, ':'], decoded_of_not_mem ?_, ?_⟩
  · simpa using percent_ne_of_isAlpha alpha
  · rw [List.forall_mem_cons, List.forall_mem_singleton]
    exact ⟨isPassedOver_of_isAlpha alpha, by decide⟩

namespace Walk
variable {piece : List Char} {special : Bool}

theorem of_splitsBehindDrive (split : splitsBehindDrive piece = true) :
    ∃ letter rest, letter.isAlpha = true ∧ kept piece = letter :: ':' :: rest := by
  unfold splitsBehindDrive at split
  split at split
  · rename_i letter c rest same
    rw [Bool.and_eq_true] at split
    exact ⟨letter, c :: rest, split.1, same⟩
  · contradiction

/-- One step leaves some of the trail, and what it adds has no character that is passed over. -/
theorem Leads.continues {before after : List (List Char)}
    (leads : Leads piece (escape (segmentEscapes special) (kept piece)) before after) :
    Continues before.reverse after.reverse := by
  have percent := percent_mem_segmentEscapes special
  cases leads with
  | nowhere => exact .refl _
  | back => exact .back _ _
  | into =>
    rw [List.reverse_cons]
    exact (Continues.refl _).concat (.of_kept percent piece)
  | drive drive =>
    obtain ⟨letter, alpha, same⟩ := of_isDrive drive
    apply Continues.of_solid
    rw [List.reverse_singleton, List.forall_mem_singleton]
    rcases same with same | same
    all_goals
      rw [same]
      exact .drive alpha
  | apart apart =>
    obtain ⟨letter, rest, alpha, same⟩ := of_splitsBehindDrive apart
    have colon : ':' ∉ segmentEscapes special := by cases special <;> decide
    have behind : ∀ c ∈ rest, isPassedOver c = false := by
      intro c found
      have member : c ∈ kept piece := by simp [same, found]
      exact (mem_of_mem_kept member).2
    have others : Solid (escape (segmentEscapes special) rest) :=
      ⟨rest, decoded_escape percent _, behind⟩
    rw [same, escape_cons_of_isAlpha alpha, escape_cons (by decide) (by decide) colon]
    apply Continues.of_solid
    simpa using ⟨.drive alpha, others⟩

theorem lastStep_continues (w : Walk) (isFile special : Bool) (piece : List Char) :
    Continues w.trail.reverse (w.lastStep isFile (segmentEscapes special) piece).trail.reverse := by
  obtain ⟨after, leads, same | longer⟩ := lastStep_leads w isFile (segmentEscapes special) piece
  · rw [same]
    exact leads.continues
  · rw [longer, List.reverse_cons]
    exact leads.continues.concat .nil

end Walk

theorem addSegment_continues (kind : SchemeKind) (parts : List (List Char)) (s : String) :
    Continues parts (addSegment kind parts s) := by
  by_cases dots : s = "." ∨ s = ".."
  · rw [addSegment, if_pos (by simpa using dots)]
    exact .refl parts
  · rw [not_or] at dots
    rw [addSegment_of_ne dots.1 dots.2]
    apply (Continues.openSegments parts).trans
    have walked := Walk.lastStep_continues { trail := (openSegments parts).reverse } (kind = .file)
      kind.isSpecial s.toList
    rwa [List.reverse_reverse] at walked

theorem foldl_addSegment_continues (kind : SchemeKind) (parts : List (List Char))
    (segments : List String) : Continues parts (segments.foldl (addSegment kind) parts) := by
  induction segments generalizing parts with
  | nil => exact .refl parts
  | cons s rest ih => exact (addSegment_continues kind parts s).trans (ih _)

theorem addSegment_slashFree (free : SlashFree parts) (s : String) :
    SlashFree (addSegment kind parts s) := by
  unfold addSegment
  split
  · exact free
  · have opened : SlashFree (openSegments parts) := by
      unfold openSegments
      split
      · exact .nil
      · exact free
    exact (Walk.lastStep_slashFree opened.reverse
      (slash_not_mem_escape (.inr (slash_mem_segmentEscapes _)))).reverse

theorem foldl_addSegment_slashFree (free : SlashFree parts) (segments : List String) :
    SlashFree (segments.foldl (addSegment kind) parts) := by
  induction segments generalizing parts with
  | nil => exact free
  | cons s rest ih => exact ih (addSegment_slashFree free s)

def withoutEmptyEnd (segments : List (List UInt8)) : List (List UInt8) :=
  if segments.getLast? = some [] then segments.dropLast else segments

/-- Whether names keep their places behind the segments of a base path. -/
structure Fits (kind : SchemeKind) (base : List (List UInt8)) (segments : List String) : Prop where
  /-- A bare slash stays if nothing follows. -/
  slash : base = [[]] → segments ≠ []
  /-- Two slashes are taken for one if something follows. -/
  slashes : base = [[], []] → segments = []
  /-- At the root, an empty segment gives way to the next one. -/
  empty : base = [] ∨ base = [[]] → segments.head? = some "" → segments = [""]
  /-- At the root of a file's path, a bar is taken for the colon of a drive. -/
  drive : base = [] ∨ base = [[]] → kind = .file → ∀ s, segments.head? = some s → ¬ IsBarred s

/-- What of a base path the segments stand behind. -/
def standing (parts : List (List Char)) : List (List Char) :=
  if parts = [[]] then [] else trimmedSegments parts

theorem withoutEmptyEnd_map (parts : List (List Char)) :
    withoutEmptyEnd (parts.map decoded) = (standing parts).map decoded := by
  have last : (parts.map decoded).getLast? = some [] ↔ parts.getLast? = some [] := by
    rw [List.getLast?_map, Option.map_eq_some_iff]
    simp
  by_cases slash : parts = [[]]
  · rw [slash]
    rfl
  rw [standing, if_neg slash, withoutEmptyEnd, trimmedSegments]
  by_cases empty : parts.getLast? = some []
  · have several : 2 ≤ parts.length := by
      match parts, slash, empty with
      | [_], slash, rfl => exact absurd rfl slash
      | _ :: _ :: _, _, _ => simp
    rw [if_pos (last.mpr empty), if_pos (by simp [several, empty]), List.map_dropLast]
  · rw [if_neg (mt last.mp empty), if_neg (by simp [empty])]

theorem standing_continues (parts : List (List Char)) :
    Continues (standing parts) (trimmedSegments parts) := by
  unfold standing
  split
  · rename_i slash
    rw [slash]
    apply Continues.of_solid
    rintro _ (_ | ⟨_, ⟨⟩⟩)
    exact .nil
  · exact .refl _

/-- A segment that is said by the path has no character that is passed over. -/
theorem solid_of_eq {result : List (List Char)} (continues : Continues start result)
    (same : result.map decoded = start.map decoded ++ segments.map bytesOfText)
    (member : s ∈ segments) : ∀ c ∈ s.toList, isPassedOver c = false := by
  have added : (result.drop start.length).map decoded = segments.map bytesOfText := by
    rw [List.map_drop, same, List.drop_left' (List.length_map _)]
  have found : bytesOfText s ∈ (result.drop start.length).map decoded := by
    rw [added]
    exact List.mem_map_of_mem member
  obtain ⟨text, behind, value⟩ := List.mem_map.mp found
  obtain ⟨m, new, rfl, solid⟩ := continues
  rw [List.drop_append, List.drop_eq_nil_of_le (List.length_take_le' m start),
    List.nil_append] at behind
  obtain ⟨cs, spelled, passed⟩ := solid text (List.mem_of_mem_drop behind)
  have same : s.toList = cs := utf8_inj.mp (value.symm.trans spelled)
  rwa [same]

def isAppended (s : String) : Bool := !(s = "." || s = "..")

theorem isAppended_iff : isAppended s = true ↔ s ≠ "." ∧ s ≠ ".." := by
  simp [isAppended]

theorem foldl_addSegment_filter (kind : SchemeKind) (parts : List (List Char))
    (segments : List String) :
    segments.foldl (addSegment kind) parts =
      (segments.filter isAppended).foldl (addSegment kind) parts := by
  induction segments generalizing parts with
  | nil => rfl
  | cons s rest ih =>
    by_cases dots : (s = "." || s = "..") = true
    · rw [List.filter_cons_of_neg (by simp [isAppended, dots]), List.foldl_cons, addSegment,
        if_pos dots, ih]
    · rw [List.filter_cons_of_pos (by simp [isAppended, dots]), List.foldl_cons, List.foldl_cons,
        ih]

theorem length_openSegments_le_standing (parts : List (List Char)) :
    (openSegments (trimmedSegments parts)).length ≤ (standing parts).length := by
  by_cases slash : parts = [[]]
  · rw [slash]
    exact Nat.le_refl _
  · rw [standing, if_neg slash]
    exact length_openSegments_le _

/-- Whether a path tells what its base told and then the segments behind it. -/
def Tells (kind : SchemeKind) (parts : List (List Char)) (segments : List String) : Prop :=
  (segments.foldl (addSegment kind) (trimmedSegments parts)).map decoded =
    withoutEmptyEnd (parts.map decoded) ++ segments.map bytesOfText

theorem Tells.length (tells : Tells kind parts segments) :
    (segments.foldl (addSegment kind) (trimmedSegments parts)).length =
      (standing parts).length + segments.length := by
  have counted := congrArg List.length tells
  rwa [withoutEmptyEnd_map, List.length_append, List.length_map, List.length_map,
    List.length_map] at counted

/-- Dots alone are not told. -/
theorem Tells.eq_nil (tells : Tells kind parts segments)
    (dots : segments.filter isAppended = []) : segments = [] := by
  rw [Tells, foldl_addSegment_filter, dots, List.foldl_nil, withoutEmptyEnd_map, standing] at tells
  cases segments with
  | nil => rfl
  | cons s rest =>
    exfalso
    split at tells
    · rename_i slash
      rw [slash] at tells
      have empty : [] = bytesOfText s := (List.cons.inj tells).1
      have text : s = "" := String.toList_inj.mp (utf8_eq_nil.mp empty.symm)
      have left := List.filter_eq_nil_iff.mp dots s List.mem_cons_self
      rw [text] at left
      exact left rfl
    · have counted := congrArg List.length tells
      simp at counted

/-- A path tells names only. -/
theorem Tells.isName (tells : Tells kind parts segments) : ∀ s ∈ segments, IsName s := by
  have walked := (standing_continues parts).trans (foldl_addSegment_continues kind _ segments)
  have solid (s : String) (member : s ∈ segments) : ∀ c ∈ s.toList, isPassedOver c = false := by
    apply solid_of_eq walked _ member
    rw [tells, withoutEmptyEnd_map]
  have named (s : String) (member : s ∈ segments) (appended : isAppended s = true) : IsName s :=
    have ⟨dot, dots⟩ := isAppended_iff.mp appended
    ⟨dot, dots, solid s member⟩
  -- every segment has its place, so none of them was passed over
  have complete : (segments.filter isAppended).length = segments.length := by
    by_cases none : segments.filter isAppended = []
    · rw [tells.eq_nil none]
      rfl
    · have counted := tells.length
      rw [foldl_addSegment_filter] at counted
      have all : ∀ s ∈ segments.filter isAppended, IsName s := by
        intro s member
        obtain ⟨member, appended⟩ := List.mem_filter.mp member
        exact named s member appended
      have most := length_foldl_addSegment_le_of_ne_nil kind (trimmedSegments parts) none all
      have base := length_openSegments_le_standing parts
      have fewer := List.length_filter_le isAppended segments
      omega
  intro s member
  exact named s member (List.length_filter_eq_length_iff.mp complete s member)

theorem map_decoded_eq_slash : parts.map decoded = [[]] ↔ parts = [[]] := by
  simp [List.map_eq_cons_iff]

theorem map_decoded_eq_slashes : parts.map decoded = [[], []] ↔ parts = [[], []] := by
  simp [List.map_eq_cons_iff]

/-- Whether a base path is that of the root. -/
theorem root_iff :
    parts.map decoded = [] ∨ parts.map decoded = [[]] ↔ parts = [] ∨ parts = [[]] := by
  rw [List.map_eq_nil_iff, map_decoded_eq_slash]

theorem standing_of_root (root : parts = [] ∨ parts = [[]]) :
    standing parts = [] ∧ openSegments (trimmedSegments parts) = [] := by
  rcases root with rfl | rfl <;> exact ⟨rfl, rfl⟩

theorem trimmedSegments_ne_nil (some : parts ≠ []) : trimmedSegments parts ≠ [] := by
  unfold trimmedSegments
  split
  · rename_i empty
    rw [Bool.and_eq_true, decide_eq_true_eq] at empty
    intro none
    have shorter := congrArg List.length none
    rw [List.length_dropLast, List.length_nil] at shorter
    omega
  · exact some

theorem trimmedSegments_eq_slash (slash : trimmedSegments parts = [[]]) :
    parts = [[]] ∨ parts = [[], []] := by
  unfold trimmedSegments at slash
  split at slash
  · rename_i empty
    rw [Bool.and_eq_true, decide_eq_true_eq] at empty
    obtain ⟨before, rfl⟩ := List.getLast?_eq_some_iff.mp (of_decide_eq_true empty.2)
    rw [List.dropLast_concat] at slash
    rw [slash]
    exact .inr rfl
  · exact .inl slash

theorem not_isBarred_empty : ¬ IsBarred "" := by
  rintro ⟨letter, -, bar⟩
  contradiction

/-- What follows a path that tells its segments fits behind it. -/
theorem Tells.fits (tells : Tells kind parts segments) :
    Fits kind (parts.map decoded) segments := by
  have all := tells.isName
  have counted := tells.length
  constructor
  · intro slash none
    rw [map_decoded_eq_slash.mp slash, none] at counted
    contradiction
  · intro slashes
    by_contra some
    have most := length_foldl_addSegment_le_of_ne_nil kind (trimmedSegments parts) some all
    rw [map_decoded_eq_slashes.mp slashes] at counted most
    have base : (standing [[], []]).length = 1 := rfl
    have opened : (openSegments (trimmedSegments [[], []])).length = 0 := rfl
    omega
  · intro root first
    obtain ⟨rest, rfl⟩ := List.head?_eq_some_iff.mp first
    obtain ⟨base, opened⟩ := standing_of_root (root_iff.mp root)
    obtain ⟨name, others⟩ := List.forall_mem_cons.mp all
    by_contra longer
    have step : addSegment kind (trimmedSegments parts) "" = [[]] := by
      rw [addSegment_of_isName name (fun _ _ => not_isBarred_empty), opened]
      rfl
    have some : rest ≠ [] := by simpa using longer
    have most := length_foldl_addSegment_le_of_ne_nil kind [[]] some others
    have slash : (openSegments [[]]).length = 0 := rfl
    rw [List.foldl_cons, step, base, List.length_cons, List.length_nil] at counted
    omega
  · rintro root rfl s first ⟨letter, alpha, bar⟩
    obtain ⟨rest, rfl⟩ := List.head?_eq_some_iff.mp first
    obtain ⟨base, opened⟩ := standing_of_root (root_iff.mp root)
    obtain ⟨name, others⟩ := List.forall_mem_cons.mp all
    have step := addSegment_of_isBarred name alpha bar opened
    have drive : decoded [letter, ':'] = bytesOfText s := by
      rw [Tells, withoutEmptyEnd_map, base, List.foldl_cons, step,
        foldl_addSegment_of_isName (List.cons_ne_nil _ _) (by simp) others] at tells
      exact (List.cons.inj tells).1
    have plain : '%' ∉ [letter, ':'] := by simpa using percent_ne_of_isAlpha alpha
    rw [decoded_of_not_mem plain, bytesOfText, bar] at drive
    have same : ':' = '|' := (List.cons.inj (List.cons.inj (utf8_inj.mp drive)).2).1
    contradiction

theorem map_decoded_written {names : List String} (all : ∀ name ∈ names, IsName name) :
    (names.map (written kind)).map decoded = names.map bytesOfText := by
  rw [List.map_map]
  apply List.map_congr_left
  intro name member
  rw [Function.comp_apply, decoded_written, (all name member).kept_eq, bytesOfText]

/-- Names that fit behind a path are told by it. -/
theorem Fits.tells (all : ∀ s ∈ segments, IsName s)
    (fits : Fits kind (parts.map decoded) segments) : Tells kind parts segments := by
  rw [Tells, withoutEmptyEnd_map]
  by_cases root : parts = [] ∨ parts = [[]]
  · obtain ⟨base, opened⟩ := standing_of_root root
    rw [base]
    cases segments with
    | nil =>
      rcases root with rfl | rfl
      · rfl
      · exact absurd rfl (fits.slash rfl)
    | cons s rest =>
      obtain ⟨name, others⟩ := List.forall_mem_cons.mp all
      have root' := root_iff.mpr root
      have place : openSegments (trimmedSegments parts) = [] → kind = .file → ¬ IsBarred s :=
        fun _ file => fits.drive root' file s rfl
      have run : (s :: rest).foldl (addSegment kind) (trimmedSegments parts) =
          (s :: rest).map (written kind) := by
        by_cases empty : s = ""
        · rw [empty] at fits place name ⊢
          rw [(List.cons.inj (fits.empty root' rfl)).2, List.foldl_cons, List.foldl_nil,
            addSegment_of_isName name place, opened]
          rfl
        · rw [foldl_addSegment_cons name others place empty, opened, List.nil_append]
      rw [run, map_decoded_written all]
      rfl
  · rw [not_or] at root
    rw [standing, if_neg root.2]
    by_cases slash : trimmedSegments parts = [[]]
    · have slashes := (trimmedSegments_eq_slash slash).resolve_left root.2
      rw [fits.slashes (map_decoded_eq_slashes.mpr slashes), List.foldl_nil, List.map_nil,
        List.append_nil]
    · rw [foldl_addSegment_of_isName (trimmedSegments_ne_nil root.1) slash all, List.map_append,
        map_decoded_written all]

/-- A path tells the segments that were put behind it exactly if they are names and fit there. -/
theorem tells_iff : Tells kind parts segments ↔
    (∀ s ∈ segments, IsName s) ∧ Fits kind (parts.map decoded) segments := by
  constructor
  · intro tells
    exact ⟨tells.isName, tells.fits⟩
  · rintro ⟨all, fits⟩
    exact fits.tells all

end FleetRollout.Http
