/-! Cutting a text at a separator character. -/
namespace FleetRollout.Text

/-- The pieces of a text between occurrences of `sep`; there is always at least one. -/
def pieces (sep : Char) : List Char → List (List Char)
  | [] => [[]]
  | c :: cs =>
    if c = sep then [] :: pieces sep cs
    else match pieces sep cs with
      | [] => [[c]]
      | first :: rest => (c :: first) :: rest

/-- What stands before and after the first `sep`, if there is one. -/
def cut (sep : Char) : List Char → Option (List Char × List Char)
  | [] => none
  | c :: cs =>
    if c = sep then some ([], cs) else (cut sep cs).map fun (before, after) => (c :: before, after)

def trimStartOf (c : Char) (cs : List Char) : List Char := cs.dropWhile (· = c)

def trimEndOf (c : Char) (cs : List Char) : List Char := (cs.reverse.dropWhile (· = c)).reverse

theorem pieces_ne_nil (sep : Char) (cs : List Char) : pieces sep cs ≠ [] := by
  cases cs with
  | nil => simp [pieces]
  | cons c cs =>
    unfold pieces
    split
    · simp
    · split <;> simp

/-- Writing the separator between the pieces gives the text back. -/
theorem intercalate_pieces (sep : Char) (cs : List Char) :
    [sep].intercalate (pieces sep cs) = cs := by
  induction cs with
  | nil => rfl
  | cons c cs ih =>
    unfold pieces
    split
    · subst c
      cases h : pieces sep cs with
      | nil => exact absurd h (pieces_ne_nil sep cs)
      | cons p ps => rw [h] at ih; simp [List.intercalate, ← ih]
    · cases h : pieces sep cs with
      | nil => exact absurd h (pieces_ne_nil sep cs)
      | cons p ps =>
        rw [h] at ih
        cases ps <;> simp_all [List.intercalate]

theorem cut_eq_some {sep : Char} {cs a b : List Char} (h : cut sep cs = some (a, b)) :
    cs = a ++ sep :: b ∧ sep ∉ a := by
  induction cs generalizing a b with
  | nil => simp [cut] at h
  | cons c cs ih =>
    unfold cut at h
    split at h
    · obtain ⟨rfl, rfl⟩ : [] = a ∧ cs = b := by simpa using h
      simp_all
    · obtain ⟨⟨a', b'⟩, h', heq⟩ := Option.map_eq_some_iff.1 h
      simp only [Prod.mk.injEq] at heq
      obtain ⟨rfl, rfl⟩ := heq
      obtain ⟨rfl, hn⟩ := ih h'
      simp_all [eq_comm]

end FleetRollout.Text
