import FleetRollout.Proofs.Text.Pieces
import FleetRollout.Rollout.Pattern
import FleetRollout.Text.Utf8

/-! The texts that patterns of rollouts are read from. A pattern is read exactly if its items spell
phases, which are then given in order; every other text is refused as invalid. -/
namespace FleetRollout

def DelayUnit.letter : DelayUnit → Char
  | minutes => 'm'
  | hours => 'h'
  | days => 'd'

namespace Rollout
open Text

/-- A text of a delay of a year at most: a number and right after it the letter of a unit. There may
be white space around both. -/
def SpellsDelay (value : List Char) (delay : Delay) : Prop :=
  ∃ amount, trim value = amount ++ [delay.unit.letter] ∧ SpellsNumber amount delay.amount ∧
    delay.inMinutes ≤ longestDelayDays * 1440

/-- A text of the size of a phase. Only the last phase may take what is left. -/
inductive SpellsSize (isLast : Bool) : List Char → Option UInt32 → Prop
  | rest (last : isLast = true) : SpellsSize isLast ['*'] none
  | percent {cs : List Char} {size : UInt32} (number : SpellsNumber cs size) (positive : 1 ≤ size)
      (le : size ≤ 100) : SpellsSize isLast cs (some size)

/-- An item for a phase, which has no start: a size, or a size and a delay. -/
inductive SpellsItem (isLast : Bool) : List Char → Phase → Prop
  | sized {cs : List Char} {size : Option UInt32} (sized : SpellsSize isLast cs size) :
      SpellsItem isLast cs { batchSize := size }
  | delayed {cs value : List Char} {size : Option UInt32} {delay : Delay}
      (sized : SpellsSize isLast cs size) (waits : SpellsDelay value delay) :
      SpellsItem isLast (cs ++ ':' :: value) { batchSize := size, delay := some delay }

inductive SpellsItems : List (List Char) → List Phase → Prop
  | last {item : List Char} {phase : Phase} (spells : SpellsItem true item phase) :
      SpellsItems [item] [phase]
  | cons {item : List Char} {phase : Phase} {items : List (List Char)} {phases : List Phase}
      (spells : SpellsItem false item phase) (rest : SpellsItems items phases) :
      SpellsItems (item :: items) (phase :: phases)

/-- Items between commas, and white space. -/
def SpellsPattern (pattern : List Char) (phases : List Phase) : Prop :=
  ∃ parts, pattern = [','].intercalate parts ∧ (∀ part ∈ parts, ',' ∉ part) ∧
    SpellsItems ((parts.map trim).filter (!·.isEmpty)) phases

/-- So many bytes from its start, a text can be cut without cutting a character in two. -/
def IsBoundary (place : Nat) (cs : List Char) : Prop :=
  ∃ before, before <+: cs ∧ (utf8 before).length = place

variable {pattern value item cs : List Char} {isLast : Bool}

theorem unitOfLetter?_eq_some {c : Char} {unit : DelayUnit} :
    unitOfLetter? c = some unit ↔ c = unit.letter := by
  unfold unitOfLetter?
  constructor
  · intro found
    split at found
    all_goals first | contradiction | (obtain rfl := Option.some.inj found; rfl)
  · rintro rfl
    cases unit <;> rfl

theorem splitLast?_concat (before : List Char) (last : Char) :
    splitLast? (before ++ [last]) = some (before, last) := by
  induction before with
  | nil => rfl
  | cons c cs ih =>
    cases cs with
    | nil => rfl
    | cons d ds =>
      simp only [List.cons_append, splitLast?] at ih ⊢
      rw [ih, Option.map_some]

theorem parseDelay_of_concat {amount : List Char} {letter : Char}
    (text : trim value = amount ++ [letter]) :
    parseDelay value =
      match unitOfLetter? letter, readUInt32 amount with
      | some unit, some n =>
        if longestDelayDays * 1440 < (Delay.mk n unit).inMinutes then
          .error (.validation (.delayTooLong (String.ofList (amount ++ [letter]))))
        else .ok ⟨n, unit⟩
      | _, _ => .error (.validation (.invalidDelay (String.ofList value))) := by
  simp only [parseDelay, text, splitLast?_concat, Option.bind_eq_bind, Option.bind_some]
  cases unitOfLetter? letter with
  | none => rfl
  | some unit =>
    cases readUInt32 amount with
    | none => rfl
    | some n => rfl

theorem parseDelay_of_blank (text : trim value = []) :
    parseDelay value = .error (.validation (.invalidDelay (String.ofList value))) := by
  simp only [parseDelay, text]
  rfl

/-- Exactly the texts of delays are read as such. -/
theorem parseDelay_eq_ok {delay : Delay} :
    parseDelay value = .ok delay ↔ SpellsDelay value delay := by
  rcases (trim value).eq_nil_or_concat' with text | ⟨amount, letter, text⟩
  · rw [parseDelay_of_blank text]
    constructor
    · intro reads
      contradiction
    · rintro ⟨amount, same, _⟩
      rw [text] at same
      exact absurd same (by simp)
  · rw [parseDelay_of_concat text]
    constructor
    · intro reads
      split at reads
      · rename_i unit n unitFound numberFound
        split at reads
        · contradiction
        · rename_i short
          obtain rfl := Except.ok.inj reads
          rw [unitOfLetter?_eq_some.mp unitFound] at text
          exact ⟨amount, text, readUInt32_eq_some.mp numberFound, Nat.not_lt.mp short⟩
      · contradiction
    · rintro ⟨amount', same, number, short⟩
      rw [text] at same
      obtain ⟨rfl, last⟩ := List.append_inj' same rfl
      obtain rfl := List.head_eq_of_cons_eq last
      rw [unitOfLetter?_eq_some.mpr rfl, readUInt32_eq_some.mpr number]
      exact if_neg (Nat.not_lt.mpr short)

theorem not_mem_of_spellsNumber {c : Char} {n : UInt32} (spells : SpellsNumber cs n)
    (other : c.isDigit = false) (unsigned : c ≠ '+') : c ∉ cs := by
  intro found
  rcases spells with ⟨_, all, _⟩ | ⟨_, all, _⟩
  · rw [all c found] at other
    contradiction
  · rcases List.mem_cons.mp found with same | digit
    · exact unsigned same
    · rw [all c digit] at other
      contradiction

theorem SpellsSize.colon_not_mem {size : Option UInt32} (spells : SpellsSize isLast cs size) :
    ':' ∉ cs := by
  rcases spells with _ | ⟨number, _, _⟩
  · decide
  · exact not_mem_of_spellsNumber number rfl (by decide)

/-- A percentage of at least one and at most a hundred is inside the range of sizes. -/
theorem size_inside {percent : UInt32} :
    (percent = 0 || 100 < percent) = false ↔ 1 ≤ percent ∧ percent ≤ 100 := by
  have zero : percent = 0 ↔ percent.toNat = 0 := UInt32.toNat_inj.symm
  have one : 1 ≤ percent ↔ 1 ≤ percent.toNat := UInt32.le_iff_toNat_le
  have most : percent ≤ 100 ↔ percent.toNat ≤ 100 := UInt32.le_iff_toNat_le
  have above : 100 < percent ↔ 100 < percent.toNat := UInt32.lt_iff_toNat_lt
  rw [Bool.or_eq_false_iff, decide_eq_false_iff_not, decide_eq_false_iff_not, zero, above, one, most]
  omega

theorem parseSize_eq_ok {size : Option UInt32} :
    parseSize pattern isLast cs = .ok size ↔ SpellsSize isLast cs size := by
  by_cases star : cs = ['*']
  · subst star
    simp only [parseSize, if_true]
    constructor
    · intro reads
      split at reads
      · rename_i last
        obtain rfl := Except.ok.inj reads
        exact .rest last
      · contradiction
    · rintro (last | ⟨number, _, _⟩)
      · exact if_pos last
      · exact absurd List.mem_cons_self (not_mem_of_spellsNumber number rfl (by decide))
  · simp only [parseSize, if_neg star]
    constructor
    · intro reads
      split at reads
      · contradiction
      · rename_i percent found
        split at reads
        · contradiction
        · rename_i outside
          obtain rfl := Except.ok.inj reads
          obtain ⟨positive, le⟩ := size_inside.mp (Bool.eq_false_iff.mpr outside)
          exact .percent (readUInt32_eq_some.mp found) positive le
    · rintro (_ | ⟨number, positive, le⟩)
      · contradiction
      · rw [readUInt32_eq_some.mpr number]
        exact if_neg (Bool.eq_false_iff.mp (size_inside.mpr ⟨positive, le⟩))

theorem parseItem_of_size (free : ':' ∉ item) :
    parseItem pattern isLast item =
      parseSize pattern isLast item >>= fun size => .ok { batchSize := size } := by
  rw [parseItem, cut_of_not_mem free]
  rfl

theorem parseItem_of_delay (free : ':' ∉ cs) (value : List Char) :
    parseItem pattern isLast (cs ++ ':' :: value) =
      parseDelay value >>= fun delay => parseSize pattern isLast cs >>= fun size =>
        .ok { batchSize := size, delay := some delay } := by
  rw [parseItem, cut_append free]
  rfl

theorem parseItem_eq_ok {phase : Phase} :
    parseItem pattern isLast item = .ok phase ↔ SpellsItem isLast item phase := by
  constructor
  · intro reads
    cases found : cut ':' item with
    | none =>
      rw [parseItem_of_size (cut_eq_none.mp found), bind_eq_ok] at reads
      obtain ⟨size, sized, same⟩ := reads
      obtain rfl := Except.ok.inj same
      exact .sized (parseSize_eq_ok.mp sized)
    | some parts =>
      obtain ⟨rfl, free⟩ := cut_eq_some found
      rw [parseItem_of_delay free, bind_eq_ok] at reads
      obtain ⟨delay, waits, reads⟩ := reads
      obtain ⟨size, sized, same⟩ := bind_eq_ok.mp reads
      obtain rfl := Except.ok.inj same
      exact .delayed (parseSize_eq_ok.mp sized) (parseDelay_eq_ok.mp waits)
  · rintro (sized | ⟨sized, waits⟩)
    · rw [parseItem_of_size sized.colon_not_mem, parseSize_eq_ok.mpr sized]
      rfl
    · rw [parseItem_of_delay sized.colon_not_mem, parseDelay_eq_ok.mpr waits,
        parseSize_eq_ok.mpr sized]
      rfl

theorem parseItems_cons {rest : List (List Char)} {phases : List Phase} :
    parseItems pattern (item :: rest) = .ok phases ↔
      ∃ phase later, parseItem pattern rest.isEmpty item = .ok phase ∧
        parseItems pattern rest = .ok later ∧ phases = phase :: later := by
  rw [parseItems, bind_eq_ok]
  constructor
  · rintro ⟨phase, reads, others⟩
    obtain ⟨later, others, same⟩ := bind_eq_ok.mp others
    exact ⟨phase, later, reads, others, (Except.ok.inj same).symm⟩
  · rintro ⟨phase, later, reads, others, rfl⟩
    exact ⟨phase, reads, bind_eq_ok.mpr ⟨later, others, rfl⟩⟩

theorem parseItems_eq_ok {items : List (List Char)} {phases : List Phase} (nonempty : items ≠ []) :
    parseItems pattern items = .ok phases ↔ SpellsItems items phases := by
  induction items generalizing phases with
  | nil => contradiction
  | cons item rest ih =>
    rw [parseItems_cons]
    -- Only the last item may take what is left, so it is a case of its own.
    cases rest with
    | nil =>
      constructor
      · rintro ⟨phase, later, reads, none, rfl⟩
        obtain rfl := Except.ok.inj none
        exact .last (parseItem_eq_ok.mp reads)
      · rintro (spells | ⟨_, rest⟩)
        · exact ⟨_, _, parseItem_eq_ok.mpr spells, rfl, rfl⟩
        · nomatch rest
    | cons next rest =>
      constructor
      · rintro ⟨phase, later, reads, others, rfl⟩
        exact .cons (parseItem_eq_ok.mp reads) ((ih (List.cons_ne_nil next rest)).mp others)
      · rintro (_ | ⟨spells, others⟩)
        exact ⟨_, _, parseItem_eq_ok.mpr spells, (ih (List.cons_ne_nil next rest)).mpr others, rfl⟩

theorem SpellsItems.ne_nil {items : List (List Char)} {phases : List Phase}
    (spells : SpellsItems items phases) : items ≠ [] := by
  cases spells <;> exact List.cons_ne_nil _ _

theorem parsePattern_of_items {pattern : String} {phases : List Phase} :
    parsePattern pattern = .ok phases ↔ SpellsItems (patternItems pattern.toList) phases := by
  unfold parsePattern
  cases found : patternItems pattern.toList with
  | nil =>
    constructor
    · intro reads
      contradiction
    · intro spells
      exact absurd rfl spells.ne_nil
  | cons item rest => exact parseItems_eq_ok (List.cons_ne_nil item rest)

theorem patternItems_intercalate {parts : List (List Char)} (free : ∀ part ∈ parts, ',' ∉ part) :
    patternItems ([','].intercalate parts) = (parts.map trim).filter (!·.isEmpty) := by
  cases parts with
  | nil => rfl
  | cons part rest => rw [patternItems, pieces_intercalate (List.cons_ne_nil part rest) free]

/-- Exactly the patterns of phases are read as such. -/
theorem parsePattern_eq_ok {pattern : String} {phases : List Phase} :
    parsePattern pattern = .ok phases ↔ SpellsPattern pattern.toList phases := by
  rw [parsePattern_of_items]
  constructor
  · intro spells
    exact ⟨pieces ',' pattern.toList, (intercalate_pieces ',' _).symm,
      fun _ => not_mem_of_mem_pieces, spells⟩
  · rintro ⟨parts, joined, free, spells⟩
    rwa [joined, patternItems_intercalate free]

section Refusals
variable {α β : Type}

def RefusesAsInvalid (x : Except DeployError α) : Prop :=
  ∀ e, x = .error e → ∃ issue, e = .validation issue

theorem refusesAsInvalid_ok (a : α) : RefusesAsInvalid (.ok a) := by
  intro e refused
  contradiction

theorem refusesAsInvalid_error (issue : ValidationIssue) :
    RefusesAsInvalid (.error (.validation issue) : Except DeployError α) := by
  rintro _ ⟨⟩
  exact ⟨issue, rfl⟩

theorem RefusesAsInvalid.bind {x : Except DeployError α} {next : α → Except DeployError β}
    (first : RefusesAsInvalid x) (later : ∀ a, RefusesAsInvalid (next a)) :
    RefusesAsInvalid (x >>= next) := by
  cases x with
  | ok a => exact later a
  | error e =>
    obtain ⟨issue, rfl⟩ := first e rfl
    exact refusesAsInvalid_error issue

end Refusals

theorem parseDelay_refuses (value : List Char) : RefusesAsInvalid (parseDelay value) := by
  dsimp only [parseDelay]
  split
  · exact refusesAsInvalid_error _
  · split
    · exact refusesAsInvalid_error _
    · exact refusesAsInvalid_ok _

theorem parseSize_refuses (pattern : List Char) (isLast : Bool) (cs : List Char) :
    RefusesAsInvalid (parseSize pattern isLast cs) := by
  unfold parseSize
  split
  · split
    · exact refusesAsInvalid_ok _
    · exact refusesAsInvalid_error _
  · split
    · exact refusesAsInvalid_error _
    · split
      · exact refusesAsInvalid_error _
      · exact refusesAsInvalid_ok _

theorem parseItem_refuses (pattern : List Char) (isLast : Bool) (item : List Char) :
    RefusesAsInvalid (parseItem pattern isLast item) := by
  unfold parseItem
  split
  · exact (parseSize_refuses pattern isLast item).bind fun _ => refusesAsInvalid_ok _
  · exact (parseDelay_refuses _).bind fun _ =>
      (parseSize_refuses pattern isLast _).bind fun _ => refusesAsInvalid_ok _

theorem parseItems_refuses (pattern : List Char) (items : List (List Char)) :
    RefusesAsInvalid (parseItems pattern items) := by
  induction items with
  | nil => exact refusesAsInvalid_ok _
  | cons item rest ih =>
    exact (parseItem_refuses pattern rest.isEmpty item).bind fun _ =>
      ih.bind fun _ => refusesAsInvalid_ok _

theorem parsePattern_refuses (pattern : String) : RefusesAsInvalid (parsePattern pattern) := by
  unfold parsePattern
  split
  · exact refusesAsInvalid_error _
  · exact parseItems_refuses _ _

/-- A delay whose last character has several bytes is refused without a cut into it. -/
theorem parseDelay_inside (text : trim value ≠ [])
    (inside : ¬ IsBoundary ((utf8 (trim value)).length - 1) (trim value)) :
    parseDelay value = .error (.validation (.invalidDelay (String.ofList value))) := by
  obtain ⟨amount, letter, same⟩ := (trim value).eq_nil_or_concat'.resolve_left text
  rw [parseDelay_of_concat same]
  cases found : unitOfLetter? letter with
  | none => rfl
  | some unit =>
    obtain rfl := unitOfLetter?_eq_some.mp found
    -- The letter of a unit is one byte, so right before it no character would be cut.
    have narrow : (utf8 [unit.letter]).length = 1 := by cases unit <;> rfl
    refine absurd ⟨amount, ⟨[unit.letter], same.symm⟩, ?_⟩ inside
    rw [same, utf8_append, List.length_append, narrow, Nat.add_sub_cancel]

end Rollout
end FleetRollout
