/-! The UTF-8 bytes of a text, and the text of a row of bytes. Decoding refuses exactly the rows of
bytes that are not UTF-8. -/
namespace FleetRollout.Text

def utf8 (cs : List Char) : List UInt8 := cs.flatMap String.utf8EncodeChar

def ofUtf8? (bs : List UInt8) : Option (List Char) :=
  (ByteArray.utf8Decode? bs.toByteArray).map Array.toList

/-- The first character of a row of bytes and what follows it. A byte that starts no character
counts as the replacement character. -/
def firstChar : List UInt8 → Char × List UInt8
  | [] => ('\uFFFD', [])
  | b :: bs =>
    let found := [0, 1, 2, 3].findSome? fun n =>
      match ofUtf8? (b :: bs.take n) with
      | some (c :: _) => some (c, bs.drop n)
      | _ => none
    found.getD ('\uFFFD', bs)

theorem firstChar_length (b : UInt8) (bs : List UInt8) :
    (firstChar (b :: bs)).2.length < (b :: bs).length := by
  simp only [firstChar, List.length_cons]
  generalize hf : List.findSome? _ [0, 1, 2, 3] = found
  cases found with
  | none => simp
  | some r =>
    obtain ⟨n, -, hn⟩ := List.exists_of_findSome?_eq_some hf
    split at hn
    · obtain rfl := Option.some.inj hn
      simp only [Option.getD_some, List.length_drop]
      omega
    · cases hn

/-- The text of a row of bytes, of which those that are not UTF-8 are replaced. -/
def ofBytes (bs : List UInt8) : List Char :=
  match bs with
  | [] => []
  | b :: bs => (firstChar (b :: bs)).1 :: ofBytes (firstChar (b :: bs)).2
termination_by bs.length
decreasing_by exact firstChar_length b bs

theorem utf8_append (cs ds : List Char) : utf8 (cs ++ ds) = utf8 cs ++ utf8 ds :=
  List.flatMap_append

theorem ofUtf8?_utf8 (cs : List Char) : ofUtf8? (utf8 cs) = some cs := by
  have h : (utf8 cs).toByteArray = cs.utf8Encode := rfl
  simp [ofUtf8?, h]

end FleetRollout.Text
