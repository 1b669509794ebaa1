import FleetRollout.Proofs.Json.Quoting
import FleetRollout.Proofs.Text.Numeral

/-! Texts of syntax trees, and that each of them is read as the tree that it spells. -/
namespace FleetRollout.Json.Syntax
open Text

def isGap (cs : List Char) : Bool := cs.all isSpace

def isApart : List Char → Bool
  | [] => true
  | c :: _ => isSpace c || c = ',' || c = ']' || c = '\x7d'

mutual

/-- A text of a tree with whole numbers. There may be space after opening brackets, commas and
colons, and before closing brackets. -/
inductive Spells : Syntax → List Char → Prop
  | null : Spells .null ['n', 'u', 'l', 'l']
  | bool (b : Bool) : Spells (.bool b) (Json.bool b).chars
  | natural (n : Nat) : Spells (.number ⟨false, digits n, none, none⟩) (digits n)
  | negative (n : Nat) : Spells (.number ⟨true, digits n, none, none⟩) ('-' :: digits n)
  | str (s : String) : Spells (.str (some s)) (quote s)
  | emptyArr : Spells (.arr []) ['[', ']']
  | arr {item : Syntax} {items : List Syntax} {cs later : List Char} (gap : List Char)
      (space : isGap gap = true) (first : Spells item cs) (rest : SpellsItems items later) :
      Spells (.arr (item :: items)) ('[' :: (gap ++ (cs ++ later)))
  | emptyObj : Spells (.obj []) ['\x7b', '\x7d']
  | obj {value : Syntax} {members : List (Option String × Syntax)} {cs later : List Char}
      (key : String) (gap between : List Char) (space : isGap gap = true)
      (space' : isGap between = true) (first : Spells value cs)
      (rest : SpellsMembers members later) :
      Spells (.obj ((some key, value) :: members))
        ('\x7b' :: (gap ++ (quote key ++ ':' :: (between ++ (cs ++ later)))))

/-- A text of the items of an array after the first one, with the closing bracket. -/
inductive SpellsItems : List Syntax → List Char → Prop
  | nil (gap : List Char) (space : isGap gap = true) : SpellsItems [] (gap ++ [']'])
  | cons {item : Syntax} {items : List Syntax} {cs later : List Char} (gap : List Char)
      (space : isGap gap = true) (first : Spells item cs) (rest : SpellsItems items later) :
      SpellsItems (item :: items) (',' :: (gap ++ (cs ++ later)))

inductive SpellsMembers : List (Option String × Syntax) → List Char → Prop
  | nil (gap : List Char) (space : isGap gap = true) : SpellsMembers [] (gap ++ ['\x7d'])
  | cons {value : Syntax} {members : List (Option String × Syntax)} {cs later : List Char}
      (key : String) (gap between : List Char) (space : isGap gap = true)
      (space' : isGap between = true) (first : Spells value cs)
      (rest : SpellsMembers members later) :
      SpellsMembers ((some key, value) :: members)
        (',' :: (gap ++ (quote key ++ ':' :: (between ++ (cs ++ later)))))

end

variable {gap rest cs later : List Char}

theorem skipSpace_gap {c : Char} (space : isGap gap = true) (token : isSpace c = false)
    (rest : List Char) : skipSpace (gap ++ c :: rest) = c :: rest := by
  apply dropWhile_run
  · exact List.all_eq_true.mp space
  · rintro _ ⟨⟩
    exact token

theorem skipSpace_token {c : Char} (token : isSpace c = false) (rest : List Char) :
    skipSpace (c :: rest) = c :: rest := by
  have none : isGap [] = true := rfl
  exact skipSpace_gap none token rest

theorem skipSpace_quote {key : String} (space : isGap gap = true) (rest : List Char) :
    skipSpace (gap ++ (quote key ++ rest)) = quote key ++ rest := skipSpace_gap space rfl _

theorem isApart_gap {c : Char} (space : isGap gap = true) (closes : isApart (c :: rest) = true) :
    isApart (gap ++ c :: rest) = true := by
  cases gap with
  | nil => exact closes
  | cons d ds =>
    have first : isSpace d = true := List.all_eq_true.mp space d (by simp)
    simp [isApart, first]

theorem SpellsItems.isApart {items : List Syntax} (spells : SpellsItems items later) :
    isApart (later ++ rest) = true := by
  cases spells with
  | nil _ space =>
    rw [List.append_assoc]
    exact isApart_gap space rfl
  | cons => rfl

theorem SpellsMembers.isApart {members : List (Option String × Syntax)}
    (spells : SpellsMembers members later) : isApart (later ++ rest) = true := by
  cases spells with
  | nil _ space =>
    rw [List.append_assoc]
    exact isApart_gap space rfl
  | cons => rfl

theorem isDigit_of_isApart (apart : isApart rest = true) : ∀ c ∈ rest.head?, c.isDigit = false := by
  rintro c first
  cases rest with
  | nil => contradiction
  | cons d ds =>
    obtain rfl := Option.some.inj first
    simp only [Syntax.isApart, isSpace, Bool.or_eq_true, decide_eq_true_eq] at apart
    rcases apart with (((((rfl | rfl) | rfl) | rfl) | rfl) | rfl) | rfl
    all_goals rfl

theorem unsigned?_digits (negative : Bool) (n : Nat) (apart : isApart rest = true) :
    unsigned? negative (digits n ++ rest) =
      some (.number ⟨negative, digits n, none, none⟩, rest) := by
  have stops := isDigit_of_isApart apart
  have row : digitRow? (digits n ++ rest) = some (digits n, rest) := by
    unfold digitRow?
    rw [takeWhile_run (fun _ => isDigit_of_mem_digits) stops,
      dropWhile_run (fun _ => isDigit_of_mem_digits) stops]
    split
    · exact absurd ‹_› (digits_ne_nil n)
    · rfl
  have whole : wholePart? (digits n ++ rest) = some (digits n, rest) := by
    unfold wholePart?
    rw [row]
    split
    · exact absurd (congrArg Prod.fst (Option.some.inj ‹_›)) (digits_ne_zero_cons n _ _)
    · rfl
  have fraction : fractionPart? rest = some (none, rest) := by
    unfold fractionPart?
    split
    · contradiction
    · rfl
  have exponent : exponentPart? rest = some (none, rest) := by
    unfold exponentPart?
    split
    · contradiction
    · contradiction
    · rfl
  rw [unsigned?, whole]
  simp [fraction, exponent]

theorem key?_quote (key : String) (rest : List Char) :
    key? (quote key ++ ':' :: rest) = some (some key, rest) := by
  have same : quote key ++ ':' :: rest =
      '"' :: (key.toList.flatMap escapedChar ++ '"' :: ':' :: rest) := by
    simp [quote]
  rw [same, key?, string?_quoted]
  rfl

/-- A text starts with a token, which closes no array. -/
theorem Spells.starts {s : Syntax} (spells : Spells s cs) :
    ∃ c tail, cs = c :: tail ∧ isSpace c = false ∧ c ≠ ']' := by
  cases spells with
  | natural n =>
    obtain ⟨c, tail, row, digit⟩ := digits_eq_cons n
    refine ⟨c, tail, row, ?_, ?_⟩
    · cases space : isSpace c with
      | false => rfl
      | true =>
        simp only [isSpace, Bool.or_eq_true, decide_eq_true_eq] at space
        rcases space with ((rfl | rfl) | rfl) | rfl
        all_goals contradiction
    · rintro rfl
      contradiction
  | bool b => cases b <;> exact ⟨_, _, rfl, rfl, by decide⟩
  | _ => exact ⟨_, _, rfl, rfl, by decide⟩

/-- A text that is read as a tree wherever it stands. Every level of brackets takes two units of
fuel, and has two characters for them. -/
def IsRead (s : Syntax) (cs : List Char) : Prop :=
  ∀ (fuel : Nat) (gap rest : List Char), isGap gap = true → isApart rest = true →
    2 * cs.length ≤ fuel → value? fuel (gap ++ (cs ++ rest)) = some (s, rest)

def AreRead (items : List Syntax) (cs : List Char) : Prop :=
  ∀ (fuel : Nat) (gap rest : List Char), isGap gap = true → 2 * cs.length < fuel →
    items? fuel (gap ++ (cs ++ rest)) = some (items, rest)

def MembersRead (members : List (Option String × Syntax)) (cs : List Char) : Prop :=
  ∀ (fuel : Nat) (gap rest : List Char), isGap gap = true → 2 * cs.length < fuel →
    members? fuel (gap ++ (cs ++ rest)) = some (members, rest)

/-- A text whose first character decides how it is read. -/
theorem IsRead.of_token {s : Syntax} {c : Char} (token : isSpace c = false)
    (reads : ∀ (fuel : Nat) (rest : List Char), isApart rest = true → 2 * cs.length + 1 ≤ fuel →
      value? (fuel + 1) (c :: (cs ++ rest)) = some (s, rest)) : IsRead s (c :: cs) := by
  intro fuel gap rest space apart enough
  rw [List.length_cons] at enough
  obtain ⟨fuel, rfl⟩ := Nat.exists_eq_succ_of_ne_zero (by omega : fuel ≠ 0)
  have same : value? (fuel + 1) (gap ++ (c :: cs ++ rest)) =
      value? (fuel + 1) (c :: (cs ++ rest)) := by
    rw [value?, value?, List.cons_append, skipSpace_gap space token, skipSpace_token token]
  rw [same]
  exact reads fuel rest apart (by omega)

theorem isRead_natural (n : Nat) : IsRead (.number ⟨false, digits n, none, none⟩) (digits n) := by
  obtain ⟨c, tail, same, token, _⟩ := (Spells.natural n).starts
  have digit : c.isDigit = true := isDigit_of_mem_digits (same ▸ List.mem_cons_self)
  have whole {rest : List Char} (apart : isApart rest = true) :=
    unsigned?_digits false n apart
  rw [same] at whole ⊢
  apply IsRead.of_token token
  intro fuel rest apart _
  rw [value?, skipSpace_token token]
  split
  all_goals try
    obtain ⟨rfl, _⟩ := List.cons.inj ‹_›
    contradiction
  exact whole apart

theorem isRead_negative (n : Nat) :
    IsRead (.number ⟨true, digits n, none, none⟩) ('-' :: digits n) := by
  apply IsRead.of_token rfl
  intro fuel rest apart _
  rw [value?, skipSpace_token rfl]
  exact unsigned?_digits true n apart

theorem isRead_str (s : String) : IsRead (.str (some s)) (quote s) := by
  apply IsRead.of_token rfl
  intro fuel rest _ _
  have quoted := string?_quoted s rest
  change value? (fuel + 1) ('"' :: (s.toList.flatMap escapedChar ++ ['"'] ++ rest)) = _
  rw [List.append_assoc, value?, skipSpace_token rfl]
  simp only [List.singleton_append, quoted, Option.map_some]

theorem AreRead.arr {items : List Syntax} (read : AreRead items (cs ++ later))
    (space : isGap gap = true) (starts : ∃ c tail, cs = c :: tail ∧ isSpace c = false ∧ c ≠ ']') :
    IsRead (.arr items) ('[' :: (gap ++ (cs ++ later))) := by
  obtain ⟨c, tail, same, token, unclosed⟩ := starts
  apply IsRead.of_token rfl
  intro fuel rest _ enough
  rw [List.length_append] at enough
  have items := read fuel [] rest rfl (by omega)
  simp only [List.nil_append, List.append_assoc, same, List.cons_append] at items
  rw [value?, skipSpace_token rfl]
  simp only [List.append_assoc, same, List.cons_append, skipSpace_gap space token]
  split
  · exact absurd (List.cons.inj ‹_›).1 unclosed
  · rw [items]
    rfl

theorem AreRead.last {item : Syntax} (first : IsRead item cs) (space : isGap gap = true) :
    AreRead [item] (cs ++ (gap ++ [']'])) := by
  intro fuel before rest space' enough
  simp only [List.length_append, List.length_cons, List.length_nil] at enough
  obtain ⟨fuel, rfl⟩ := Nat.exists_eq_succ_of_ne_zero (by omega : fuel ≠ 0)
  have one := first fuel before (gap ++ ']' :: rest) space' (isApart_gap space rfl) (by omega)
  have close := skipSpace_gap (c := ']') space rfl rest
  simp only [List.append_assoc, List.singleton_append, items?, one, close, Option.bind_eq_bind,
    Option.bind_some, Option.pure_def]

theorem AreRead.cons {item : Syntax} {items : List Syntax} (first : IsRead item cs)
    (space : isGap gap = true) (others : AreRead items later) :
    AreRead (item :: items) (cs ++ ',' :: (gap ++ later)) := by
  intro fuel before rest space' enough
  simp only [List.length_append, List.length_cons] at enough
  obtain ⟨fuel, rfl⟩ := Nat.exists_eq_succ_of_ne_zero (by omega : fuel ≠ 0)
  have one := first fuel before (',' :: (gap ++ (later ++ rest))) space' rfl (by omega)
  have comma := skipSpace_token (c := ',') rfl (gap ++ (later ++ rest))
  have more := others fuel gap rest space (by omega)
  simp only [List.append_assoc, List.cons_append, items?, one, comma, more, Option.bind_eq_bind,
    Option.bind_some, Option.pure_def]

theorem MembersRead.obj {members : List (Option String × Syntax)} {key : String}
    (read : MembersRead members (quote key ++ later)) (space : isGap gap = true) :
    IsRead (.obj members) ('\x7b' :: (gap ++ (quote key ++ later))) := by
  apply IsRead.of_token rfl
  intro fuel rest _ enough
  rw [List.length_append] at enough
  have members := read fuel [] rest rfl (by omega)
  have key := skipSpace_gap (c := '"') space rfl
  rw [value?, skipSpace_token rfl]
  simp only [List.nil_append, quote, List.append_assoc, List.cons_append] at members ⊢
  rw [key]
  exact congrArg (Option.map _) members

theorem MembersRead.last {value : Syntax} {between : List Char} (key : String)
    (first : IsRead value cs) (space : isGap between = true) (space' : isGap gap = true) :
    MembersRead [(some key, value)]
      (quote key ++ ':' :: (between ++ (cs ++ (gap ++ ['\x7d'])))) := by
  intro fuel before rest space'' enough
  simp only [List.length_append, List.length_cons, List.length_nil] at enough
  obtain ⟨fuel, rfl⟩ := Nat.exists_eq_succ_of_ne_zero (by omega : fuel ≠ 0)
  have named := key?_quote key (between ++ (cs ++ (gap ++ '\x7d' :: rest)))
  have one := first fuel between (gap ++ '\x7d' :: rest) space (isApart_gap space' rfl) (by omega)
  have close := skipSpace_gap (c := '\x7d') space' rfl rest
  simp only [List.append_assoc, List.cons_append, List.nil_append, members?,
    skipSpace_quote space'', named, one, close, Option.bind_eq_bind, Option.bind_some,
    Option.pure_def]

theorem MembersRead.cons {value : Syntax} {members : List (Option String × Syntax)}
    {between : List Char} (key : String) (first : IsRead value cs) (space : isGap between = true)
    (space' : isGap gap = true) (others : MembersRead members later) :
    MembersRead ((some key, value) :: members)
      (quote key ++ ':' :: (between ++ (cs ++ ',' :: (gap ++ later)))) := by
  intro fuel before rest space'' enough
  simp only [List.length_append, List.length_cons] at enough
  obtain ⟨fuel, rfl⟩ := Nat.exists_eq_succ_of_ne_zero (by omega : fuel ≠ 0)
  have named := key?_quote key (between ++ (cs ++ ',' :: (gap ++ (later ++ rest))))
  have one := first fuel between (',' :: (gap ++ (later ++ rest))) space rfl (by omega)
  have comma := skipSpace_token (c := ',') rfl (gap ++ (later ++ rest))
  have more := others fuel gap rest space' (by omega)
  simp only [List.append_assoc, List.cons_append, members?, skipSpace_quote space'', named, one,
    comma, more, Option.bind_eq_bind, Option.bind_some, Option.pure_def]

mutual

theorem Spells.isRead {s : Syntax} {cs : List Char} : Spells s cs → IsRead s cs
  | .null => .of_token rfl fun _ _ _ _ => rfl
  | .bool true => .of_token rfl fun _ _ _ _ => rfl
  | .bool false => .of_token rfl fun _ _ _ _ => rfl
  | .natural n => isRead_natural n
  | .negative n => isRead_negative n
  | .str s => isRead_str s
  | .emptyArr => .of_token rfl fun _ _ _ _ => rfl
  | .emptyObj => .of_token rfl fun _ _ _ _ => rfl
  | .arr _ space first rest => (rest.areRead first.isRead).arr space first.starts
  | .obj key _ _ space space' first rest => (rest.membersRead key first.isRead space').obj space

theorem SpellsItems.areRead {item : Syntax} {items : List Syntax} {cs later : List Char} :
    SpellsItems items later → IsRead item cs → AreRead (item :: items) (cs ++ later)
  | .nil _ space, read => .last read space
  | .cons _ space first rest, read => .cons read space (rest.areRead first.isRead)

theorem SpellsMembers.membersRead {value : Syntax} {between cs later : List Char}
    {members : List (Option String × Syntax)} (key : String) :
    SpellsMembers members later → IsRead value cs → isGap between = true →
      MembersRead ((some key, value) :: members) (quote key ++ ':' :: (between ++ (cs ++ later)))
  | .nil _ space, read, space' => .last key read space' space
  | .cons next _ _ space space'' first rest, read, space' =>
    .cons key read space' space (rest.membersRead next first.isRead space'')

end

/-- A text of a tree with space around it is read as that tree. -/
theorem Spells.ofChars? {s : Syntax} {before after : List Char} (spells : Spells s cs)
    (space : isGap before = true) (space' : isGap after = true) :
    Syntax.ofChars? (before ++ (cs ++ after)) = some s := by
  have apart : Syntax.isApart after = true := by
    cases after with
    | nil => rfl
    | cons c _ =>
      have first : isSpace c = true := List.all_eq_true.mp space' c (by simp)
      simp [Syntax.isApart, first]
  have read := spells.isRead (2 * (before ++ (cs ++ after)).length + 2) before after space apart
    (by simp only [List.length_append]; omega)
  have empty : skipSpace (after ++ []) = [] :=
    dropWhile_run (List.all_eq_true.mp space') (by simp)
  rw [List.append_nil] at empty
  simp only [Syntax.ofChars?, read, empty, Option.bind_eq_bind, Option.bind_some, List.isEmpty_nil,
    if_true]

theorem Spells.ofString? {s : Syntax} {text : String} (spells : Spells s text.toList) :
    Syntax.ofString? text = some s := by
  have none : isGap [] = true := rfl
  have read := spells.ofChars? none none
  rwa [List.nil_append, List.append_nil] at read

end FleetRollout.Json.Syntax
