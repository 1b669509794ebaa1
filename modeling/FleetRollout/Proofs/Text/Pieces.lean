import FleetRollout.Proofs.Text.Numeral
import FleetRollout.Text.Blank
import FleetRollout.Text.Split

/-! Pieces of a text. Texts without the separator come back from the text that joins them, and a text
without white space is not trimmed. -/
namespace FleetRollout.Text
variable {sep : Char} {cs piece rest : List Char}

theorem pieces_of_not_mem (free : sep ∉ piece) : pieces sep piece = [piece] := by
  induction piece with
  | nil => rfl
  | cons c cs ih =>
    rw [List.mem_cons, not_or] at free
    obtain ⟨first, others⟩ := free
    rw [pieces, if_neg (Ne.symm first), ih others]

/-- A separator between two texts parts their pieces. -/
theorem pieces_append_cons (cs rest : List Char) :
    pieces sep (cs ++ sep :: rest) = pieces sep cs ++ pieces sep rest := by
  induction cs with
  | nil => rw [List.nil_append, pieces, pieces, if_pos rfl, List.singleton_append]
  | cons c cs ih =>
    rw [List.cons_append, pieces, ih, pieces]
    by_cases here : c = sep
    · rw [if_pos here, if_pos here, List.cons_append]
    · rw [if_neg here, if_neg here]
      cases cutUp : pieces sep cs with
      | nil => exact absurd cutUp (pieces_ne_nil sep cs)
      | cons first others => rfl

theorem pieces_append (free : sep ∉ piece) (rest : List Char) :
    pieces sep (piece ++ sep :: rest) = piece :: pieces sep rest := by
  rw [pieces_append_cons, pieces_of_not_mem free, List.singleton_append]

/-- Joined texts are cut into themselves. -/
theorem pieces_intercalate {items : List (List Char)} (nonempty : items ≠ [])
    (free : ∀ item ∈ items, sep ∉ item) : pieces sep ([sep].intercalate items) = items := by
  induction items with
  | nil => contradiction
  | cons item rest ih =>
    obtain ⟨first, others⟩ := List.forall_mem_cons.mp free
    cases rest with
    | nil => simpa [List.intercalate] using pieces_of_not_mem first
    | cons next rest =>
      have joined : [sep].intercalate (item :: next :: rest) =
          item ++ sep :: [sep].intercalate (next :: rest) := by
        simp [List.intercalate]
      rw [joined, pieces_append first, ih (List.cons_ne_nil _ _) others]

theorem not_mem_of_mem_pieces (found : piece ∈ pieces sep cs) : sep ∉ piece := by
  induction cs generalizing piece with
  | nil =>
    obtain rfl := List.mem_singleton.mp found
    exact List.not_mem_nil
  | cons c cs ih =>
    unfold pieces at found
    split at found
    · obtain rfl | later := List.mem_cons.mp found
      · exact List.not_mem_nil
      · exact ih later
    · rename_i other
      split at found
      · obtain rfl := List.mem_singleton.mp found
        simpa using Ne.symm other
      · rename_i first rest cutUp
        rw [cutUp] at ih
        obtain rfl | later := List.mem_cons.mp found
        · rw [List.mem_cons, not_or]
          exact ⟨Ne.symm other, ih List.mem_cons_self⟩
        · exact ih (List.mem_cons_of_mem first later)

theorem cut_of_not_mem (free : sep ∉ cs) : cut sep cs = none := by
  induction cs with
  | nil => rfl
  | cons c cs ih =>
    rw [List.mem_cons, not_or] at free
    obtain ⟨first, others⟩ := free
    rw [cut, if_neg (Ne.symm first), ih others, Option.map_none]

theorem cut_append (free : sep ∉ piece) (rest : List Char) :
    cut sep (piece ++ sep :: rest) = some (piece, rest) := by
  induction piece with
  | nil => rw [List.nil_append, cut, if_pos rfl]
  | cons c cs ih =>
    rw [List.mem_cons, not_or] at free
    obtain ⟨first, others⟩ := free
    rw [List.cons_append, cut, if_neg (Ne.symm first), ih others, Option.map_some]

theorem cut_eq_none : cut sep cs = none ↔ sep ∉ cs := by
  constructor
  · intro none found
    obtain ⟨before, after, rfl, free⟩ := List.eq_append_cons_of_mem found
    rw [cut_append free] at none
    contradiction
  · exact cut_of_not_mem

theorem trimStartOf_replicate_append (n : Nat) (bare : cs.head? ≠ some sep) :
    trimStartOf sep (List.replicate n sep ++ cs) = cs := by
  refine dropWhile_run (fun c found => ?_) fun c first => ?_
  · exact decide_eq_true (List.eq_of_mem_replicate found)
  · refine decide_eq_false fun same => bare ?_
    rw [← same]
    exact first

theorem exists_replicate_append_trimStartOf (sep : Char) (cs : List Char) :
    ∃ n, cs = List.replicate n sep ++ trimStartOf sep cs := by
  have same : ∀ c ∈ cs.takeWhile (· = sep), c = sep :=
    fun c found => of_decide_eq_true (List.all_eq_true.mp List.all_takeWhile c found)
  refine ⟨(cs.takeWhile (· = sep)).length, ?_⟩
  rw [← List.eq_replicate_of_mem same, trimStartOf, List.takeWhile_append_dropWhile]

theorem head?_trimStartOf (sep : Char) (cs : List Char) :
    (trimStartOf sep cs).head? ≠ some sep := by
  intro first
  have stopped := List.head?_dropWhile_not (fun c => decide (c = sep)) cs
  rw [trimStartOf] at first
  simp [first] at stopped

theorem mem_of_mem_trimStartOf {c : Char} (found : c ∈ trimStartOf sep cs) : c ∈ cs :=
  (List.dropWhile_suffix _).subset found

theorem trim_of_solid (solid : ∀ c ∈ cs, isBlank c = false) : trim cs = cs := by
  have start (cs : List Char) (solid : ∀ c ∈ cs, isBlank c = false) :
      cs.dropWhile isBlank = cs := by
    cases cs with
    | nil => rfl
    | cons c rest => rw [List.dropWhile_cons_of_neg (by simp [solid c])]
  rw [trim, trimStart, start cs solid, trimEnd, start, List.reverse_reverse]
  intro c found
  exact solid c (List.mem_reverse.mp found)

/-- A text of a number: its digits, which zeros and a plus sign may precede. -/
inductive SpellsNumber : List Char → UInt32 → Prop
  | digits {ds : List Char} {n : UInt32} (some : ds ≠ []) (all : ∀ d ∈ ds, d.isDigit = true)
      (value : digitsValue ds = n.toNat) : SpellsNumber ds n
  | plus {ds : List Char} {n : UInt32} (some : ds ≠ []) (all : ∀ d ∈ ds, d.isDigit = true)
      (value : digitsValue ds = n.toNat) : SpellsNumber ('+' :: ds) n

/-- A text of a natural number: digits, which a plus sign may precede. -/
inductive SpellsNat : List Char → Nat → Prop
  | digits {ds : List Char} (some : ds ≠ []) (all : ∀ d ∈ ds, d.isDigit = true) :
      SpellsNat ds (digitsValue ds)
  | plus {ds : List Char} (some : ds ≠ []) (all : ∀ d ∈ ds, d.isDigit = true) :
      SpellsNat ('+' :: ds) (digitsValue ds)

theorem isNumeral_iff : isNumeral cs = true ↔ cs ≠ [] ∧ ∀ d ∈ cs, d.isDigit = true := by
  simp [isNumeral]

theorem withoutPlus_of_isDigit (all : ∀ d ∈ cs, d.isDigit = true) : withoutPlus cs = cs := by
  cases cs with
  | nil => rfl
  | cons c rest =>
    unfold withoutPlus
    split
    · obtain ⟨rfl, _⟩ := List.cons.inj ‹_›
      exact absurd (all '+' List.mem_cons_self) (by decide)
    · rfl

/-- A text without a plus sign at its start, or with one. -/
theorem withoutPlus_cases (cs : List Char) : withoutPlus cs = cs ∨ cs = '+' :: withoutPlus cs := by
  unfold withoutPlus
  split
  · exact .inr rfl
  · exact .inl rfl

theorem spellsNat_iff {n : Nat} :
    SpellsNat cs n ↔ isNumeral (withoutPlus cs) = true ∧ digitsValue (withoutPlus cs) = n := by
  rw [isNumeral_iff]
  constructor
  · rintro (⟨some, all⟩ | ⟨some, all⟩)
    · rw [withoutPlus_of_isDigit all]
      exact ⟨⟨some, all⟩, rfl⟩
    · exact ⟨⟨some, all⟩, rfl⟩
  · rintro ⟨⟨some, all⟩, rfl⟩
    obtain same | signed := withoutPlus_cases cs
    · rw [same] at some all ⊢
      exact .digits some all
    · generalize withoutPlus cs = ds at signed some all
      rw [signed]
      exact .plus some all

theorem spellsNumber_iff {n : UInt32} : SpellsNumber cs n ↔ SpellsNat cs n.toNat := by
  constructor
  · rintro (⟨some, all, value⟩ | ⟨some, all, value⟩)
    · exact value ▸ .digits some all
    · exact value ▸ .plus some all
  · intro spelled
    generalize value : n.toNat = m at spelled
    cases spelled with
    | digits some all => exact .digits some all value.symm
    | plus some all => exact .plus some all value.symm

theorem readUnsigned_eq_some {bound n : Nat} :
    readUnsigned bound cs = some n ↔ SpellsNat cs n ∧ n < bound := by
  simp only [readUnsigned, Bool.and_eq_true, decide_eq_true_eq, spellsNat_iff]
  constructor
  · intro reads
    split at reads
    · rename_i found
      obtain rfl := Option.some.inj reads
      exact ⟨⟨found.1, rfl⟩, found.2⟩
    · contradiction
  · rintro ⟨⟨numeral, rfl⟩, small⟩
    exact if_pos ⟨numeral, small⟩

theorem map_toNat_readUInt32 (cs : List Char) :
    (readUInt32 cs).map UInt32.toNat = readUnsigned UInt32.size cs := by
  unfold readUInt32
  split <;> simp [*]

theorem map_toNat_readUInt64 (cs : List Char) :
    (readUInt64 cs).map UInt64.toNat = readUnsigned UInt64.size cs := by
  unfold readUInt64
  split <;> simp [*]

/-- Exactly the numerals of numbers of 32 bits are read. -/
theorem readUInt32_eq_some {n : UInt32} : readUInt32 cs = some n ↔ SpellsNumber cs n := by
  have injective : Function.Injective (Option.map UInt32.toNat) :=
    Option.map_injective fun _ _ => UInt32.toNat_inj.mp
  rw [spellsNumber_iff, ← injective.eq_iff, map_toNat_readUInt32, Option.map_some,
    readUnsigned_eq_some, and_iff_left n.toNat_lt]

/-- Exactly the numerals of numbers of 64 bits are read. -/
theorem readUInt64_eq_some {n : UInt64} : readUInt64 cs = some n ↔ SpellsNat cs n.toNat := by
  have injective : Function.Injective (Option.map UInt64.toNat) :=
    Option.map_injective fun _ _ => UInt64.toNat_inj.mp
  rw [← injective.eq_iff, map_toNat_readUInt64, Option.map_some, readUnsigned_eq_some,
    and_iff_left n.toNat_lt]

end FleetRollout.Text
