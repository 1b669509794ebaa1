import FleetRollout.Proofs.Json.Grammar

/-! The syntax tree of a value. The texts of the value, on one line and in many, spell it, so that
they are read as that tree. -/
namespace FleetRollout.Json
open Text

mutual

def tree : Json → Syntax
  | .null => .null
  | .bool b => .bool b
  | .int n => .number ⟨n < 0, digits n.natAbs, none, none⟩
  | .float x => (Syntax.ofChars? x.write).getD .null
  | .str s => .str (some s)
  | .arr items => .arr (itemTrees items)
  | .obj members => .obj (memberTrees members)

def itemTrees : List Json → List Syntax
  | [] => []
  | item :: rest => item.tree :: itemTrees rest

def memberTrees : List (String × Json) → List (Option String × Syntax)
  | [] => []
  | (key, v) :: rest => (some key, v.tree) :: memberTrees rest

end

mutual

def isWhole : Json → Bool
  | .float _ => false
  | .arr items => areWhole items
  | .obj members => membersAreWhole members
  | _ => true

def areWhole : List Json → Bool
  | [] => true
  | item :: rest => item.isWhole && areWhole rest

def membersAreWhole : List (String × Json) → Bool
  | [] => true
  | (_, v) :: rest => v.isWhole && membersAreWhole rest

end

theorem itemTrees_eq (items : List Json) : itemTrees items = items.map tree := by
  induction items with
  | nil => rfl
  | cons item rest ih => rw [itemTrees, ih, List.map_cons]

theorem spells_signedDigits (n : Int) : Syntax.Spells (Json.int n).tree (signedDigits n) := by
  unfold tree signedDigits
  split
  · rename_i negative
    simpa [negative] using Syntax.Spells.negative n.natAbs
  · rename_i natural
    simpa [natural] using Syntax.Spells.natural n.natAbs

mutual

theorem spells_chars : (j : Json) → j.isWhole = true → Syntax.Spells j.tree j.chars
  | .null, _ => .null
  | .bool b, _ => .bool b
  | .int n, _ => spells_signedDigits n
  | .str s, _ => .str s
  | .arr [], _ => .emptyArr
  | .arr (item :: rest), whole => by
    obtain ⟨first, others⟩ := Bool.and_eq_true_iff.mp whole
    exact .arr [] rfl (spells_chars item first) (spells_itemChars rest others)
  | .obj [], _ => .emptyObj
  | .obj ((key, v) :: rest), whole => by
    obtain ⟨first, others⟩ := Bool.and_eq_true_iff.mp whole
    have spells := Syntax.Spells.obj key [] [] rfl rfl (spells_chars v first)
      (spells_memberChars rest others)
    simpa [tree, memberTrees, chars] using spells

theorem spells_itemChars :
    (items : List Json) → areWhole items = true →
      Syntax.SpellsItems (itemTrees items) (itemChars items)
  | [], _ => .nil [] rfl
  | item :: rest, whole => by
    obtain ⟨first, others⟩ := Bool.and_eq_true_iff.mp whole
    exact .cons [] rfl (spells_chars item first) (spells_itemChars rest others)

theorem spells_memberChars :
    (members : List (String × Json)) → membersAreWhole members = true →
      Syntax.SpellsMembers (memberTrees members) (memberChars members)
  | [], _ => .nil [] rfl
  | (key, v) :: rest, whole => by
    obtain ⟨first, others⟩ := Bool.and_eq_true_iff.mp whole
    have spells := Syntax.SpellsMembers.cons key [] [] rfl rfl (spells_chars v first)
      (spells_memberChars rest others)
    simpa [memberTrees, memberChars] using spells

end

theorem isGap_newLine (level : Nat) : Syntax.isGap (newLine level) = true := by
  apply List.all_eq_true.mpr
  intro c found
  obtain rfl | blank := List.mem_cons.mp found
  · rfl
  · rw [List.eq_of_mem_replicate blank]
    rfl

mutual

theorem spells_prettyChars :
    (j : Json) → (level : Nat) → j.isWhole = true → Syntax.Spells j.tree (j.prettyChars level)
  | .null, _, _ => .null
  | .bool b, _, _ => .bool b
  | .int n, _, _ => spells_signedDigits n
  | .str s, _, _ => .str s
  | .arr [], _, _ => .emptyArr
  | .arr (item :: rest), level, whole => by
    obtain ⟨first, others⟩ := Bool.and_eq_true_iff.mp whole
    have spells := Syntax.Spells.arr (newLine (level + 1)) (isGap_newLine (level + 1))
      (spells_prettyChars item (level + 1) first) (spells_prettyItems rest level others)
    simpa [tree, itemTrees, prettyChars] using spells
  | .obj [], _, _ => .emptyObj
  | .obj ((key, v) :: rest), level, whole => by
    obtain ⟨first, others⟩ := Bool.and_eq_true_iff.mp whole
    have spells := Syntax.Spells.obj key (newLine (level + 1)) [' '] (isGap_newLine (level + 1)) rfl
      (spells_prettyChars v (level + 1) first) (spells_prettyMembers rest level others)
    simpa [tree, memberTrees, prettyChars] using spells

theorem spells_prettyItems :
    (items : List Json) → (level : Nat) → areWhole items = true →
      Syntax.SpellsItems (itemTrees items) (prettyItems level items)
  | [], level, _ => .nil (newLine level) (isGap_newLine level)
  | item :: rest, level, whole => by
    obtain ⟨first, others⟩ := Bool.and_eq_true_iff.mp whole
    have spells := Syntax.SpellsItems.cons (newLine (level + 1)) (isGap_newLine (level + 1))
      (spells_prettyChars item (level + 1) first) (spells_prettyItems rest level others)
    simpa [itemTrees, prettyItems] using spells

theorem spells_prettyMembers :
    (members : List (String × Json)) → (level : Nat) → membersAreWhole members = true →
      Syntax.SpellsMembers (memberTrees members) (prettyMembers level members)
  | [], level, _ => .nil (newLine level) (isGap_newLine level)
  | (key, v) :: rest, level, whole => by
    obtain ⟨first, others⟩ := Bool.and_eq_true_iff.mp whole
    have spells := Syntax.SpellsMembers.cons key (newLine (level + 1)) [' ']
      (isGap_newLine (level + 1)) rfl (spells_prettyChars v (level + 1) first)
      (spells_prettyMembers rest level others)
    simpa [memberTrees, prettyMembers] using spells

end

theorem ofString?_compact {j : Json} (whole : j.isWhole = true) :
    Syntax.ofString? j.compact = some j.tree := by
  apply Syntax.Spells.ofString?
  rw [compact, String.toList_ofList]
  exact spells_chars j whole

/-- A text in many lines is read as the tree of its value, as it is in a file. -/
theorem ofString?_lines {j : Json} (whole : j.isWhole = true) :
    Syntax.ofString? j.pretty = some j.tree := by
  apply Syntax.Spells.ofString?
  rw [pretty, String.toList_ofList]
  exact spells_prettyChars j 0 whole

/-- So is the text of a preview, which ends its last line. -/
theorem ofString?_pretty {j : Json} (whole : j.isWhole = true) :
    Syntax.ofString? (j.pretty ++ "\n") = some j.tree := by
  have none : Syntax.isGap [] = true := rfl
  have line : Syntax.isGap ['\n'] = true := rfl
  have read := (spells_prettyChars j 0 whole).ofChars? none line
  simpa [Syntax.ofString?, pretty] using read

end FleetRollout.Json
