import FleetRollout.Http.Endpoint
import FleetRollout.Proofs.Text.Percent
import FleetRollout.Proofs.Text.Pieces

/-! The query of a URL as a row of pairs. Pairs that are put behind a query are read back behind its
own, whatever characters they are made of. -/
namespace FleetRollout.Http

open Text
open Url (addPairs pairChars)

/-- The byte that a byte of a pair stands for: a plus sign is a space. -/
def spaced (b : UInt8) : UInt8 := if b = 0x2B then 0x20 else b

def pairBytes (text : List Char) : List UInt8 := percentDecode ((utf8 text).map spaced)

/-- A pair is parted by its first equals sign. -/
def readPair (piece : List Char) : List UInt8 × List UInt8 :=
  match cut '=' piece with
  | some (key, value) => (pairBytes key, pairBytes value)
  | none => (pairBytes piece, [])

/-- The pairs of a query, of which empty ones do not count. -/
def pairsOf (query : Option (List Char)) : List (List UInt8 × List UInt8) :=
  ((pieces '&' (query.getD [])).filter fun piece => !piece.isEmpty).map readPair

def Url.pairs (u : Url) : List (List UInt8 × List UInt8) := pairsOf u.query

variable {b : UInt8} {sep : Char} {s : String}

theorem keepsInPair_lt (kept : keepsInPair b = true) : b.toNat < 0x80 := by
  simp only [keepsInPair, Bool.or_eq_true, Bool.and_eq_true, decide_eq_true_eq, beq_iff_eq,
    UInt8.le_iff_toNat_le, UInt8.reduceToNat] at kept
  rcases kept with (((((kept | kept) | kept) | rfl) | rfl) | rfl) | rfl
  all_goals
    first
    | omega
    | decide

theorem ne_of_keepsInPair {d : UInt8} (kept : keepsInPair b = true)
    (refused : keepsInPair d = false) : b ≠ d := by
  rintro rfl
  rw [refused] at kept
  contradiction

theorem spaced_hexByte {n : Nat} (digit : n < 16) : spaced (hexByte n) = hexByte n := by
  have all : ∀ n : Fin 16, spaced (hexByte n) = hexByte n := by decide
  exact all ⟨n, digit⟩

theorem percentDecode_pairByte (b : UInt8) (rest : List UInt8) :
    percentDecode ((utf8 (pairByte b)).map spaced ++ rest) = b :: percentDecode rest := by
  unfold pairByte
  split
  · rename_i space
    rw [space]
    exact percentDecode_cons_of_ne (by decide) rest
  · split
    · rename_i kept
      have plus : spaced b = b := if_neg (ne_of_keepsInPair kept (by decide))
      rw [utf8_ofNat_toNat (keepsInPair_lt kept), List.map_singleton, plus]
      exact percentDecode_cons_of_ne (ne_of_keepsInPair kept (by decide)) rest
    · have same : (utf8 (percentEscape b)).map spaced = utf8 (percentEscape b) := by
        rw [utf8_percentEscape, List.map_cons, List.map_cons, List.map_singleton,
          spaced_hexByte (high_lt b), spaced_hexByte (low_lt b)]
        rfl
      rw [same, percentDecode_percentEscape]

/-- A key or a value is read back. -/
theorem pairBytes_pairText (s : String) : pairBytes (pairText s) = bytesOfText s := by
  have all (bs : List UInt8) :
      percentDecode ((utf8 (bs.flatMap pairByte)).map spaced) = bs := by
    induction bs with
    | nil => rfl
    | cons b bs ih =>
      rw [List.flatMap_cons, utf8_append, List.map_append, percentDecode_pairByte, ih]
  exact all _

/-- A key or a value holds none of the marks between pairs. -/
theorem not_mem_pairText (mark : sep = '&' ∨ sep = '=') : sep ∉ pairText s := by
  have digit : ∀ n : Fin 16, sep ≠ upperHexDigit n := by
    rcases mark with rfl | rfl <;> decide
  intro found
  obtain ⟨b, -, written⟩ := List.mem_flatMap.mp found
  unfold pairByte at written
  split at written
  · rw [List.mem_singleton.mp written] at mark
    revert mark
    decide
  · split at written
    · rename_i kept
      have value : sep.toNat = b.toNat := by
        rw [List.mem_singleton.mp written, toNat_ofNat_of_lt (keepsInPair_lt kept)]
      have byte : b = UInt8.ofNat sep.toNat := by rw [value, UInt8.ofNat_toNat]
      rw [byte] at kept
      rcases mark with rfl | rfl
      all_goals
        revert kept
        decide
    · obtain rfl | ⟨n, same⟩ := mem_percentEscape written
      · revert mark
        decide
      · exact digit n same

theorem readPair_pairChars (pair : String × String) :
    readPair (pairChars pair) = (bytesOfText pair.1, bytesOfText pair.2) := by
  have free : '=' ∉ pairText pair.1 := not_mem_pairText (.inr rfl)
  rw [readPair, pairChars, cut_append free]
  dsimp only
  rw [pairBytes_pairText, pairBytes_pairText]

theorem pairsOf_intercalate {pairs : List (String × String)} (some : pairs ≠ []) :
    pairsOf (.some (['&'].intercalate (pairs.map pairChars))) =
      pairs.map fun pair => (bytesOfText pair.1, bytesOfText pair.2) := by
  have free : ∀ piece ∈ pairs.map pairChars, '&' ∉ piece := by
    intro piece member
    obtain ⟨pair, -, rfl⟩ := List.mem_map.mp member
    rw [pairChars, List.mem_append, List.mem_cons, not_or, not_or]
    exact ⟨not_mem_pairText (.inl rfl), by decide, not_mem_pairText (.inl rfl)⟩
  have filled : ∀ piece ∈ pairs.map pairChars, (!piece.isEmpty) = true := by
    intro piece member
    obtain ⟨pair, -, rfl⟩ := List.mem_map.mp member
    simp [pairChars]
  rw [pairsOf, Option.getD_some, pieces_intercalate (by simpa using some) free,
    List.filter_eq_self.mpr filled, List.map_map]
  apply List.map_congr_left
  intro pair _
  exact readPair_pairChars pair

theorem pairsOf_append (query added : List Char) :
    pairsOf (some (query ++ '&' :: added)) = pairsOf (some query) ++ pairsOf (some added) := by
  simp only [pairsOf, Option.getD_some, pieces_append_cons, List.filter_append, List.map_append]

/-- Added pairs are read back behind those of the query. -/
theorem pairsOf_addPairs (query : Option (List Char)) (pairs : List (String × String)) :
    pairsOf (addPairs query pairs) =
      pairsOf query ++ pairs.map fun pair => (bytesOfText pair.1, bytesOfText pair.2) := by
  unfold addPairs
  split
  · rename_i none
    rw [List.isEmpty_iff.mp none, List.map_nil, List.append_nil]
  · rename_i added
    have some : pairs ≠ [] := by simpa using added
    split
    · rw [pairsOf_append, pairsOf_intercalate some]
    · rename_i empty
      have none : pairsOf query = [] := by
        match query, empty with
        | none, _ | .some [], _ => rfl
        | .some (c :: cs), empty => exact absurd rfl (empty c cs)
      rw [pairsOf_intercalate some, none, List.nil_append]

end FleetRollout.Http
