import FleetRollout.Proofs.Http.Segments

/-! Names in a path. A name is put behind a path as one segment, which stands for just that name. Dots
are no names, as they lead nowhere or back, and neither are texts with a character that is passed
over. -/
namespace FleetRollout.Http

open Text

/-- Whether a text can name a step of a path. -/
structure IsName (s : String) : Prop where
  notDot : s ≠ "."
  notDots : s ≠ ".."
  solid : ∀ c ∈ s.toList, isPassedOver c = false

theorem isName_iff {s : String} :
    IsName s ↔ s ≠ "." ∧ s ≠ ".." ∧ (s.toList.all fun c => !isPassedOver c) = true := by
  constructor
  · rintro ⟨dot, dots, solid⟩
    exact ⟨dot, dots, by simpa using solid⟩
  · rintro ⟨dot, dots, solid⟩
    exact ⟨dot, dots, by simpa using solid⟩

instance (s : String) : Decidable (IsName s) := decidable_of_iff _ isName_iff.symm

/-- Whether a text is a letter and a bar, which at the root of a file's path stands for a drive. -/
def IsBarred (s : String) : Prop := ∃ letter, letter.isAlpha = true ∧ s.toList = [letter, '|']

def written (kind : SchemeKind) (s : String) : List Char :=
  escape (segmentEscapes kind.isSpecial) (kept s.toList)

variable {c d : Char} {cs text : List Char} {parts : List (List Char)} {kind : SchemeKind}
  {s : String}

theorem percent_mem_segmentEscapes (special : Bool) : '%' ∈ segmentEscapes special := by
  cases special <;> decide

theorem slash_mem_segmentEscapes (special : Bool) : '/' ∈ segmentEscapes special := by
  cases special <;> decide

theorem decoded_written (kind : SchemeKind) (s : String) :
    decoded (written kind s) = utf8 (kept s.toList) :=
  decoded_escape (percent_mem_segmentEscapes _) _

theorem IsName.kept_eq (name : IsName s) : kept s.toList = s.toList := kept_eq_self.mpr name.solid

theorem escape_cons_of_isAlpha {special : Bool} (alpha : c.isAlpha = true) :
    escape (segmentEscapes special) (c :: cs) = c :: escape (segmentEscapes special) cs := by
  have range : 65 ≤ c.toNat ∧ c.toNat ≤ 122 := by
    obtain upper | lower := (Bool.or_eq_true _ _).mp alpha
    · obtain ⟨low, high⟩ : 65 ≤ c.toNat ∧ c.toNat ≤ 90 := of_decide_eq_true upper
      omega
    · obtain ⟨low, high⟩ := (Bool.and_eq_true _ _).mp lower
      have low : 97 ≤ c.toNat := of_decide_eq_true low
      have high : c.toNat ≤ 122 := of_decide_eq_true high
      omega
  have marks : (segmentEscapes special).all (fun e => !e.isAlpha) = true := by
    cases special <;> decide
  apply escape_cons
  · omega
  · omega
  · intro member
    have mark := List.all_eq_true.mp marks c member
    rw [alpha] at mark
    contradiction

theorem toLower_cases (c : Char) :
    c.toLower = c ∨ 65 ≤ c.toNat ∧ c.toNat ≤ 90 ∧ c.toLower.toNat = c.toNat + 32 := by
  unfold Char.toLower
  split
  · rename_i upper
    have low : 65 ≤ c.toNat := upper.1
    have high : c.toNat ≤ 90 := upper.2
    refine .inr ⟨low, high, ?_⟩
    have sum : (c.val + ('a'.val - 'A'.val)).toNat = c.val.toNat + 32 := by
      rw [UInt32.toNat_add]
      exact Nat.mod_eq_of_lt (Nat.lt_of_le_of_lt (Nat.add_le_add_right high _) (by decide))
    exact sum
  · exact .inl rfl

theorem eq_of_toLower_eq (caseless : d.toNat < 97) (same : c.toLower = d) : c = d := by
  obtain self | ⟨low, -, value⟩ := toLower_cases c
  · exact self.symm.trans same
  · rw [same] at value
    omega

theorem eq_of_toLower_eq_e (same : c.toLower = 'e') : c = 'e' ∨ c = 'E' := by
  obtain self | ⟨-, -, value⟩ := toLower_cases c
  · exact .inl (self.symm.trans same)
  · rw [same] at value
    have big : 'e'.toNat = 'E'.toNat + 32 := by decide
    exact .inr (Char.toNat_inj.mp (by omega))

/-- A text that starts with a dot or with the escape of one stands for a dot and what its rest
stands for. -/
theorem decoded_dot {dot rest : List Char} (spelling : dot = ['.'] ∨ dot = ['%', '2', 'e'])
    (same : text.map Char.toLower = dot ++ rest) :
    ∃ others, others.map Char.toLower = rest ∧ decoded text = 0x2E :: decoded others := by
  obtain rfl | rfl := spelling
  · obtain ⟨a, others, rfl, first, left⟩ := List.map_eq_cons_iff.mp same
    obtain rfl := eq_of_toLower_eq (by decide) first
    exact ⟨others, left, rfl⟩
  · obtain ⟨a, _, rfl, first, behind⟩ := List.map_eq_cons_iff.mp same
    obtain ⟨b, _, rfl, second, behind'⟩ := List.map_eq_cons_iff.mp behind
    obtain ⟨c, others, rfl, third, left⟩ := List.map_eq_cons_iff.mp behind'
    obtain rfl := eq_of_toLower_eq (by decide) first
    obtain rfl := eq_of_toLower_eq (by decide) second
    refine ⟨others, left, ?_⟩
    obtain rfl | rfl := eq_of_toLower_eq_e third <;> rfl

theorem toLower_mem {spellings : List String}
    (found : spellings.contains (String.ofList text).toLower = true) :
    ∃ spelling ∈ spellings, text.map Char.toLower = spelling.toList := by
  refine ⟨_, List.contains_iff_mem.mp found, ?_⟩
  change _ = ((String.ofList text).map Char.toLower).toList
  rw [String.toList_map, String.toList_ofList]

theorem decoded_of_isDot (dot : isDot text = true) : decoded text = utf8 ['.'] := by
  obtain ⟨spelling, member, same⟩ := toLower_mem dot
  have one {dot : List Char} (known : dot = ['.'] ∨ dot = ['%', '2', 'e'])
      (same : text.map Char.toLower = dot ++ []) : decoded text = utf8 ['.'] := by
    obtain ⟨others, none, value⟩ := decoded_dot known same
    obtain rfl := List.map_eq_nil_iff.mp none
    exact value
  simp only [List.mem_cons, List.not_mem_nil, or_false] at member
  rcases member with rfl | rfl
  · exact one (.inl rfl) same
  · exact one (.inr rfl) same

theorem decoded_of_isDoubleDot (dots : isDoubleDot text = true) :
    decoded text = utf8 ['.', '.'] := by
  obtain ⟨spelling, member, same⟩ := toLower_mem dots
  have two {dot dot' : List Char} (known : dot = ['.'] ∨ dot = ['%', '2', 'e'])
      (known' : dot' = ['.'] ∨ dot' = ['%', '2', 'e'])
      (same : text.map Char.toLower = dot ++ (dot' ++ [])) : decoded text = utf8 ['.', '.'] := by
    obtain ⟨others, same', value⟩ := decoded_dot known same
    obtain ⟨rest, none, value'⟩ := decoded_dot known' same'
    obtain rfl := List.map_eq_nil_iff.mp none
    rw [value, value']
    rfl
  simp only [List.mem_cons, List.not_mem_nil, or_false] at member
  rcases member with rfl | rfl | rfl | rfl
  · exact two (.inl rfl) (.inl rfl) same
  · exact two (.inl rfl) (.inr rfl) same
  · exact two (.inr rfl) (.inl rfl) same
  · exact two (.inr rfl) (.inr rfl) same

theorem not_dots_of_isName (kind : SchemeKind) (name : IsName s) :
    isDot (written kind s) = false ∧ isDoubleDot (written kind s) = false := by
  have value : decoded (written kind s) = utf8 s.toList := by
    rw [decoded_written, name.kept_eq]
  constructor
  · rw [Bool.eq_false_iff]
    intro dot
    have same : s.toList = ['.'] := utf8_inj.mp (value.symm.trans (decoded_of_isDot dot))
    exact name.notDot (String.toList_inj.mp same)
  · rw [Bool.eq_false_iff]
    intro dots
    have same : s.toList = ['.', '.'] := utf8_inj.mp (value.symm.trans (decoded_of_isDoubleDot dots))
    exact name.notDots (String.toList_inj.mp same)

theorem of_isDrive (drive : isDrive text = true) :
    ∃ letter, letter.isAlpha = true ∧ (text = [letter, ':'] ∨ text = [letter, '|']) := by
  unfold isDrive at drive
  split at drive
  · rename_i letter mark
    simp only [Bool.and_eq_true, Bool.or_eq_true, decide_eq_true_eq] at drive
    obtain ⟨alpha, rfl | rfl⟩ := drive
    · exact ⟨letter, alpha, .inl rfl⟩
    · exact ⟨letter, alpha, .inr rfl⟩
  · contradiction

theorem percent_ne_of_isAlpha (alpha : c.isAlpha = true) : '%' ≠ c := by
  rintro rfl
  revert alpha
  decide

/-- A drive is written as it is. -/
theorem kept_eq_of_isDrive (drive : isDrive (written kind s) = true) :
    kept s.toList = written kind s := by
  have plain : '%' ∉ written kind s := by
    obtain ⟨letter, alpha, same | same⟩ := of_isDrive drive
    all_goals
      rw [same]
      simpa using percent_ne_of_isAlpha alpha
  exact utf8_inj.mp ((decoded_written kind s).symm.trans (decoded_of_not_mem plain))

theorem behind_subset (n : Nat) (cs : List Char) : Walk.behind n cs ⊆ cs := by
  induction cs generalizing n with
  | nil =>
    cases n <;> exact List.Subset.refl _
  | cons c cs ih =>
    cases n with
    | zero => exact List.Subset.refl _
    | succ n =>
      unfold Walk.behind
      split
      · exact List.subset_cons_of_subset c (ih _)
      · exact List.subset_cons_of_subset c (ih _)

theorem splitsBehindDrive_of_solid (solid : ∀ c ∈ cs, isPassedOver c = false) :
    Walk.splitsBehindDrive cs = false := by
  have next : ((Walk.behind 2 cs).head?.any isPassedOver) = false := by
    cases found : Walk.behind 2 cs with
    | nil => rfl
    | cons c rest =>
      have member : c ∈ cs := behind_subset 2 cs (by simp [found])
      exact solid c member
  unfold Walk.splitsBehindDrive
  split
  · rw [next, Bool.and_false]
  · rfl

theorem addSegment_of_ne (notDot : s ≠ ".") (notDots : s ≠ "..") :
    addSegment kind parts s =
      (Walk.lastStep (kind = .file) (segmentEscapes kind.isSpecial)
        { trail := (openSegments parts).reverse } s.toList).trail.reverse := by
  rw [addSegment, if_neg]
  simpa using ⟨notDot, notDots⟩

theorem lastStep_of_isName {w : Walk} {isFile : Bool} (name : IsName s) :
    w.lastStep isFile (segmentEscapes kind.isSpecial) s.toList =
      if isFile && w.trail.isEmpty then w.intoRoot s.toList (written kind s)
      else { w with trail := written kind s :: w.trail } := by
  obtain ⟨dot, dots⟩ := not_dots_of_isName kind name
  have text : escape (segmentEscapes kind.isSpecial) (kept s.toList) = written kind s := rfl
  simp only [Walk.lastStep, Walk.step, text, dot, dots, Bool.or_false, Bool.false_eq_true, if_false]

/-- A name becomes the last segment. -/
theorem addSegment_of_isName (name : IsName s)
    (place : openSegments parts = [] → kind = .file → ¬ IsBarred s) :
    addSegment kind parts s = openSegments parts ++ [written kind s] := by
  rw [addSegment_of_ne name.notDot name.notDots, lastStep_of_isName name]
  split
  · rename_i root
    rw [Bool.and_eq_true, decide_eq_true_eq, List.isEmpty_reverse, List.isEmpty_iff] at root
    obtain ⟨file, none⟩ := root
    rw [none, Walk.intoRoot, splitsBehindDrive_of_solid name.solid]
    split
    · rename_i drive
      have same := kept_eq_of_isDrive drive
      obtain ⟨letter, alpha, colon | bar⟩ := of_isDrive drive
      · rw [colon]
        rfl
      · rw [name.kept_eq, bar] at same
        exact absurd ⟨letter, alpha, same⟩ (place none file)
    · rfl
  · rw [List.reverse_cons, List.reverse_reverse]

/-- At the root of a file's path, a letter and a bar become a drive. -/
theorem addSegment_of_isBarred {letter : Char} (name : IsName s) (alpha : letter.isAlpha = true)
    (bar : s.toList = [letter, '|']) (root : openSegments parts = []) :
    addSegment .file parts s = [[letter, ':']] := by
  have text : written .file s = [letter, '|'] := by
    rw [written, name.kept_eq, bar, escape_cons_of_isAlpha alpha]
    rfl
  have drive : isDrive [letter, '|'] = true := by simp [isDrive, alpha]
  rw [addSegment_of_ne name.notDot name.notDots, lastStep_of_isName name, root, text]
  simp [Walk.intoRoot, drive]

theorem length_addSegment (kind : SchemeKind) (parts : List (List Char)) (name : IsName s) :
    (addSegment kind parts s).length = (openSegments parts).length + 1 := by
  by_cases place : openSegments parts = [] → kind = .file → ¬ IsBarred s
  · rw [addSegment_of_isName name place, List.length_append, List.length_singleton]
  · simp only [Classical.not_imp, not_not] at place
    obtain ⟨root, rfl, letter, alpha, bar⟩ := place
    rw [addSegment_of_isBarred name alpha bar root, root]
    rfl

section
variable {names : List String}

theorem openSegments_of_ne (slash : parts ≠ [[]]) : openSegments parts = parts := if_neg slash

theorem length_openSegments_le (parts : List (List Char)) :
    (openSegments parts).length ≤ parts.length := by
  unfold openSegments
  split
  · exact Nat.zero_le _
  · exact Nat.le_refl _

/-- Behind a segment that stays, names become the segments that follow. -/
theorem foldl_addSegment_of_isName (some : parts ≠ []) (slash : parts ≠ [[]])
    (all : ∀ name ∈ names, IsName name) :
    names.foldl (addSegment kind) parts = parts ++ names.map (written kind) := by
  induction names generalizing parts with
  | nil => rw [List.foldl_nil, List.map_nil, List.append_nil]
  | cons name rest ih =>
    obtain ⟨first, others⟩ := List.forall_mem_cons.mp all
    have here := openSegments_of_ne slash
    have step : addSegment kind parts name = parts ++ [written kind name] := by
      rw [addSegment_of_isName first (by rw [here]; exact fun none => absurd none some), here]
    have longer : parts ++ [written kind name] ≠ [[]] := by
      intro same
      have : parts.length + 1 = 1 := by simpa using congrArg List.length same
      exact some (List.eq_nil_of_length_eq_zero (by omega))
    rw [List.foldl_cons, step, ih (by simp) longer others, List.map_cons, List.append_assoc,
      List.singleton_append]

theorem written_eq_nil (name : IsName s) : written kind s = [] ↔ s = "" := by
  rw [← decoded_eq_nil, decoded_written, name.kept_eq, utf8_eq_nil]
  exact @String.toList_inj s ""

/-- So they do behind a bare slash, which gives way to the first of them. -/
theorem foldl_addSegment_cons (name : IsName s) (others : ∀ name ∈ names, IsName name)
    (place : openSegments parts = [] → kind = .file → ¬ IsBarred s) (filled : s ≠ "") :
    (s :: names).foldl (addSegment kind) parts =
      openSegments parts ++ (s :: names).map (written kind) := by
  have slash : openSegments parts ++ [written kind s] ≠ [[]] := by
    intro same
    have last := congrArg List.getLast? same
    rw [List.getLast?_concat] at last
    exact filled ((written_eq_nil name).mp (Option.some.inj last))
  rw [List.foldl_cons, addSegment_of_isName name place,
    foldl_addSegment_of_isName (by simp) slash others, List.append_assoc, List.singleton_append,
    List.map_cons]

theorem length_foldl_addSegment_le (kind : SchemeKind) (parts : List (List Char))
    (all : ∀ name ∈ names, IsName name) :
    (names.foldl (addSegment kind) parts).length ≤ parts.length + names.length := by
  induction names generalizing parts with
  | nil => exact Nat.le_refl _
  | cons name rest ih =>
    obtain ⟨first, others⟩ := List.forall_mem_cons.mp all
    have grown := length_addSegment kind parts first
    have opened := length_openSegments_le parts
    have run := ih (addSegment kind parts name) others
    rw [List.foldl_cons, List.length_cons]
    omega

/-- A bare slash does not count once a name follows. -/
theorem length_foldl_addSegment_le_of_ne_nil (kind : SchemeKind) (parts : List (List Char))
    (some : names ≠ []) (all : ∀ name ∈ names, IsName name) :
    (names.foldl (addSegment kind) parts).length ≤ (openSegments parts).length + names.length := by
  cases names with
  | nil => contradiction
  | cons name rest =>
    obtain ⟨first, others⟩ := List.forall_mem_cons.mp all
    have grown := length_addSegment kind parts first
    have run := length_foldl_addSegment_le kind (addSegment kind parts name) others
    rw [List.foldl_cons, List.length_cons]
    omega

end

end FleetRollout.Http
