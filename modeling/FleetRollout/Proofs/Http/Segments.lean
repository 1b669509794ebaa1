import FleetRollout.Http.Client
import FleetRollout.Proofs.Text.Percent
import FleetRollout.Proofs.Text.Pieces

/-! The segments of a URL. The path of a URL that was read holds no slash but those between its
segments, so it splits into what it was put together from. -/
namespace FleetRollout.Http

open Text

def pathTexts : List Char → List (List Char)
  | '/' :: rest => pieces '/' rest
  | _ => []

def decoded (text : List Char) : List UInt8 := percentDecode (utf8 text)

/-- The segments of a URL: its path, split at slashes and decoded. -/
def Url.segments (u : Url) : List (List UInt8) := (pathTexts u.path.chars).map decoded

variable {c : Char} {cs piece text : List Char} {b : UInt8} {escaped : List Char}
  {parts : List (List Char)}

theorem keeps_iff : keeps escaped b = true ↔
    0x20 ≤ b.toNat ∧ b.toNat < 0x7F ∧ ∀ c ∈ escaped, c.toNat ≠ b.toNat := by
  simp [keeps, UInt8.le_iff_toNat_le, UInt8.lt_iff_toNat_lt, and_assoc]

theorem decoded_escape (percent : '%' ∈ escaped) (cs : List Char) :
    decoded (escape escaped cs) = utf8 cs := by
  apply percentDecode_percentEncode
  intro b kept
  obtain ⟨-, small, other⟩ := keeps_iff.mp kept
  refine ⟨Nat.lt_trans small (by decide), ?_⟩
  rintro rfl
  exact other '%' percent rfl

theorem escape_cons (low : 0x20 ≤ c.toNat) (high : c.toNat < 0x7F) (plain : c ∉ escaped) :
    escape escaped (c :: cs) = c :: escape escaped cs := by
  have ascii : c.toNat < 0x80 := Nat.lt_trans high (by decide)
  have byte : (UInt8.ofNat c.toNat).toNat = c.toNat :=
    UInt8.toNat_ofNat_of_lt' (Nat.lt_trans ascii (by decide))
  have kept : keeps escaped (.ofNat c.toNat) = true := by
    rw [keeps_iff, byte]
    refine ⟨low, high, ?_⟩
    intro e member same
    rw [Char.toNat_inj.mp same] at member
    exact plain member
  rw [escape, utf8_cons, utf8EncodeChar_of_lt ascii, List.singleton_append, percentEncode,
    List.flatMap_cons, if_pos kept, byte, Char.ofNat_toNat]
  rfl

theorem decoded_of_not_mem (plain : '%' ∉ text) : decoded text = utf8 text := by
  apply percentDecode_of_not_mem
  intro found
  have percent : '%'.toNat < 0x80 := by decide
  exact plain ((mem_utf8_iff percent).mp found)

theorem utf8_eq_nil : utf8 cs = [] ↔ cs = [] := @utf8_inj cs []

theorem percentDecode_eq_nil {bs : List UInt8} : percentDecode bs = [] ↔ bs = [] := by
  constructor
  · intro none
    unfold percentDecode at none
    split at none
    · split at none <;> contradiction
    · contradiction
    · rfl
  · rintro rfl
    rfl

@[simp] theorem decoded_eq_nil : decoded text = [] ↔ text = [] :=
  percentDecode_eq_nil.trans utf8_eq_nil

/-- An escape holds no slash. -/
theorem slash_not_mem_percentEscape (b : UInt8) : '/' ∉ percentEscape b := by
  have digit : ∀ n : Fin 16, '/' ≠ upperHexDigit n := by decide
  intro found
  obtain percent | ⟨n, same⟩ := mem_percentEscape found
  · contradiction
  · exact digit n same

/-- A slash in an escaped text stands for itself. -/
theorem slash_mem_of_mem_escape (found : '/' ∈ escape escaped cs) : '/' ∈ cs ∧ '/' ∉ escaped := by
  obtain ⟨b, member, written⟩ := List.mem_flatMap.mp found
  split at written
  · rename_i kept
    obtain ⟨-, small, other⟩ := keeps_iff.mp kept
    have same : '/'.toNat = b.toNat := by
      rw [List.mem_singleton.mp written, toNat_ofNat_of_lt (Nat.lt_trans small (by decide))]
    have byte : b = UInt8.ofNat '/'.toNat := by rw [same, UInt8.ofNat_toNat]
    rw [byte] at member
    exact ⟨(mem_utf8_iff (by decide)).mp member, fun slash => other '/' slash same⟩
  · exact absurd written (slash_not_mem_percentEscape b)

theorem slash_not_mem_escape (free : '/' ∉ cs ∨ '/' ∈ escaped) : '/' ∉ escape escaped cs := by
  intro found
  obtain ⟨member, plain⟩ := slash_mem_of_mem_escape found
  exact free.elim (· member) plain

theorem mem_of_mem_kept (found : c ∈ kept cs) : c ∈ cs ∧ isPassedOver c = false := by
  simpa [kept] using found

theorem kept_eq_self : kept cs = cs ↔ ∀ c ∈ cs, isPassedOver c = false := by
  simp [kept]

def SlashFree (parts : List (List Char)) : Prop := ∀ part ∈ parts, '/' ∉ part

theorem SlashFree.nil : SlashFree [] := nofun

theorem slashFree_cons : SlashFree (text :: parts) ↔ '/' ∉ text ∧ SlashFree parts :=
  List.forall_mem_cons

theorem SlashFree.reverse (free : SlashFree parts) : SlashFree parts.reverse :=
  fun part found => free part (List.mem_reverse.mp found)

theorem pieces_flatMap (free : SlashFree (text :: parts)) :
    pieces '/' (text ++ parts.flatMap ('/' :: ·)) = text :: parts := by
  induction parts generalizing text with
  | nil =>
    rw [List.flatMap_nil, List.append_nil]
    exact pieces_of_not_mem (free text List.mem_cons_self)
  | cons next rest ih =>
    obtain ⟨first, others⟩ := slashFree_cons.mp free
    rw [List.flatMap_cons, List.cons_append, pieces_append first, ih others]

theorem pathTexts_chars (free : SlashFree parts) :
    pathTexts (Path.segments parts).chars = parts := by
  cases parts with
  | nil => rfl
  | cons first rest => exact pieces_flatMap free

theorem Url.segments_eq {u : Url} (path : u.path = .segments parts) (free : SlashFree parts) :
    u.segments = parts.map decoded := by
  rw [Url.segments, path, pathTexts_chars free]

namespace Walk
variable {w : Walk} {escapes : List Char} {isFile : Bool}

/-- What a step by a piece, which is written as a text, makes of the trail before it. -/
inductive Leads (piece text : List Char) : List (List Char) → List (List Char) → Prop where
  | nowhere {trail : List (List Char)} : Leads piece text trail trail
  | back {last : List Char} {trail : List (List Char)} : Leads piece text (last :: trail) trail
  | into {trail : List (List Char)} : Leads piece text trail (text :: trail)
  | drive (drive : isDrive text = true) : Leads piece text [] [text.take 1 ++ [':']]
  | apart (apart : splitsBehindDrive piece = true) :
      Leads piece text [] [text.drop 2, text.take 2]

theorem up_leads (w : Walk) : Leads piece text w.trail w.up.trail := by
  unfold up
  split
  · exact .nowhere
  · rename_i last rest trail
    split
    · exact .nowhere
    · rw [trail]
      exact .back

theorem intoRoot_leads (root : w.trail = []) :
    Leads piece text w.trail (w.intoRoot piece text).trail := by
  unfold intoRoot
  split
  · rename_i drive
    rw [root]
    exact .drive drive
  · split
    · rename_i apart
      rw [root]
      exact .apart apart
    · rw [root]
      exact .into

theorem step_leads (w : Walk) (isFile : Bool) (escapes piece : List Char) :
    Leads piece (escape escapes (kept piece)) w.trail (w.step isFile escapes piece).trail := by
  unfold step
  dsimp only
  split
  · exact up_leads w
  · split
    · exact .nowhere
    · split
      · rename_i root
        rw [Bool.and_eq_true, List.isEmpty_iff] at root
        exact intoRoot_leads root.2
      · exact .into

theorem lastStep_leads (w : Walk) (isFile : Bool) (escapes piece : List Char) :
    ∃ trail, Leads piece (escape escapes (kept piece)) w.trail trail ∧
      ((w.lastStep isFile escapes piece).trail = trail ∨
        (w.lastStep isFile escapes piece).trail = [] :: trail) := by
  refine ⟨_, step_leads w isFile escapes piece, ?_⟩
  unfold lastStep
  dsimp only
  split
  · exact .inr rfl
  · exact .inl rfl

theorem Leads.slashFree {before after : List (List Char)} (leads : Leads piece text before after)
    (clean : SlashFree before) (free : '/' ∉ text) : SlashFree after := by
  have sub {cs : List Char} (inside : cs ⊆ text) : '/' ∉ cs := fun found => free (inside found)
  cases leads with
  | nowhere => exact clean
  | back => exact (slashFree_cons.mp clean).2
  | into => exact slashFree_cons.mpr ⟨free, clean⟩
  | drive =>
    refine slashFree_cons.mpr ⟨?_, .nil⟩
    rw [List.mem_append, not_or]
    exact ⟨sub (List.take_subset _ _), by decide⟩
  | apart =>
    exact slashFree_cons.mpr ⟨sub (List.drop_subset _ _),
      slashFree_cons.mpr ⟨sub (List.take_subset _ _), .nil⟩⟩

theorem lastStep_slashFree (trail : SlashFree w.trail)
    (free : '/' ∉ escape escapes (kept piece)) :
    SlashFree (w.lastStep isFile escapes piece).trail := by
  obtain ⟨after, leads, same | longer⟩ := lastStep_leads w isFile escapes piece
  · rw [same]
    exact leads.slashFree trail free
  · rw [longer]
    exact slashFree_cons.mpr ⟨List.not_mem_nil, leads.slashFree trail free⟩

/-- A walk that splits at slashes leaves none in its segments. -/
theorem steps_slashFree {pieces : List (List Char)} (trail : SlashFree w.trail)
    (free : SlashFree pieces) : SlashFree (steps isFile escapes w pieces).trail := by
  have written {piece : List Char} (free : '/' ∉ piece) : '/' ∉ escape escapes (kept piece) :=
    slash_not_mem_escape (.inl fun found => free (mem_of_mem_kept found).1)
  induction pieces generalizing w with
  | nil => exact trail
  | cons piece rest ih =>
    obtain ⟨first, others⟩ := slashFree_cons.mp free
    cases rest with
    | nil => exact lastStep_slashFree trail (written first)
    | cons next rest => exact ih ((step_leads w _ _ piece).slashFree trail (written first)) others

end Walk

theorem pathPieces_slashFree (special : Bool) (cs : List Char) :
    SlashFree (pathPieces special cs) := by
  induction cs with
  | nil => exact slashFree_cons.mpr ⟨List.not_mem_nil, .nil⟩
  | cons c cs ih =>
    unfold pathPieces
    split
    · exact slashFree_cons.mpr ⟨List.not_mem_nil, ih⟩
    · rename_i other
      have first : '/' ≠ c := by
        rintro rfl
        exact other (by simp [isSlash])
      split
      · exact slashFree_cons.mpr ⟨by simpa using first, .nil⟩
      · rename_i piece rest cutUp
        rw [cutUp] at ih
        obtain ⟨free, others⟩ := slashFree_cons.mp ih
        refine slashFree_cons.mpr ⟨?_, others⟩
        rw [List.mem_cons, not_or]
        exact ⟨first, free⟩

theorem segmentsOf_slashFree (special : Bool) (cs : List Char) :
    SlashFree (segmentsOf special cs) := by
  unfold segmentsOf
  split
  · exact .nil
  · exact (Walk.steps_slashFree .nil (pathPieces_slashFree _ _)).reverse

theorem fileSegments_slashFree {w : Walk} (free : SlashFree w.trail) :
    SlashFree (fileSegments w) := by
  unfold fileSegments
  split
  · exact slashFree_cons.mpr ⟨List.not_mem_nil, .nil⟩
  · intro part found
    exact free.reverse part (List.dropWhile_subset _ found)

theorem fileWalk_slashFree (cs : List Char) : SlashFree (fileWalk cs).trail :=
  Walk.steps_slashFree .nil (pathPieces_slashFree _ _)

/-- The segments of a path, if it has any, hold no slash. -/
def Path.SplitsBack (path : Path) : Prop := ∀ parts, path = .segments parts → SlashFree parts

theorem SlashFree.splitsBack (free : SlashFree parts) : (Path.segments parts).SplitsBack := by
  rintro _ ⟨⟩
  exact free

namespace Url
variable {url : Url} {scheme rest : List Char}

theorem ofAuthority_splitsBack {kind : SchemeKind} (read : ofAuthority scheme kind cs = .ok url) :
    url.path.SplitsBack := by
  simp only [ofAuthority, bind, Except.bind, pure, Except.pure, throw, throwThe,
    MonadExceptOf.throw] at read
  -- with and without credentials, the path is read in the same way
  split at read
  all_goals
    split at read
    · contradiction
    · split at read
      · contradiction
      · obtain rfl := Except.ok.inj read
        exact (segmentsOf_slashFree _ _).splitsBack

theorem fileOn_splitsBack {host : List Char} {w : Walk} (free : SlashFree w.trail) :
    (fileOn scheme host rest w).path.SplitsBack :=
  (fileSegments_slashFree free).splitsBack

theorem localFile_splitsBack : (localFile scheme rest).path.SplitsBack :=
  fileOn_splitsBack (fileWalk_slashFree _)

theorem ofFileHost_splitsBack (read : ofFileHost scheme cs = .ok url) : url.path.SplitsBack := by
  simp only [ofFileHost, bind, Except.bind, pure, Except.pure] at read
  split at read
  · obtain rfl := Except.ok.inj read
    exact localFile_splitsBack
  · split at read
    · obtain rfl := Except.ok.inj read
      exact localFile_splitsBack
    · split at read
      · contradiction
      · split at read
        · obtain rfl := Except.ok.inj read
          exact localFile_splitsBack
        · obtain rfl := Except.ok.inj read
          exact fileOn_splitsBack (fileWalk_slashFree _)

theorem ofFile_splitsBack (read : ofFile scheme cs = .ok url) : url.path.SplitsBack := by
  unfold ofFile at read
  split at read
  · obtain rfl := Except.ok.inj read
    exact localFile_splitsBack
  · split at read
    · obtain rfl := Except.ok.inj read
      exact localFile_splitsBack
    · exact ofFileHost_splitsBack read

theorem ofPath_splitsBack : (ofPath scheme cs).path.SplitsBack := by
  unfold ofPath
  split
  · exact (segmentsOf_slashFree _ _).splitsBack
  · nofun

/-- Whatever its scheme is, a URL that was read splits into its segments. -/
theorem ofChars_splitsBack (read : ofChars cs = .ok url) : url.path.SplitsBack := by
  unfold ofChars at read
  split at read
  · contradiction
  · split at read
    · exact ofAuthority_splitsBack read
    · exact ofFile_splitsBack read
    · split at read
      · exact ofAuthority_splitsBack read
      · obtain rfl := Except.ok.inj read
        exact ofPath_splitsBack

end Url

/-- The base of a client is a list of segments that splits back. -/
theorem Client.ofBase_segments {baseUrl token : String} {client : Client}
    (ready : Client.ofBase baseUrl token = .ok client) :
    ∃ parts, client.base.path = .segments parts ∧ SlashFree parts := by
  unfold Client.ofBase at ready
  split at ready
  · contradiction
  · rename_i url read
    split at ready
    · contradiction
    · rename_i parts path
      obtain rfl := Except.ok.inj ready
      exact ⟨parts, path, Url.ofChars_splitsBack read parts path⟩

end FleetRollout.Http
