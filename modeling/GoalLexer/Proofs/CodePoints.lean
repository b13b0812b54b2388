import GoalLexer.Proofs.Lookups
import GoalLexer.Proofs.Walks

/-!
# A cursor over bytes and over code points

Wherever its operations have led it, a cursor stands at an index of the code points of its
source (`Cursor.StandsAt`), and what it tells there of the text is also what the bytes of
the source tell at its position (`Cursor.ReadsBytes`). The latter is said without code
points: `Utf8.charAt` finds a character in the bytes, at once if it is ASCII, a text
comes next if its bytes do, and a slice is a range of bytes.

Characters are never cut because the position is the end of a beginning of the text
(`Utf8.charAt_append`, `Utf8.extract_eq_iff`), and the encoding of a text begins with that
of another only if the text does.
-/

set_option autoImplicit false

namespace GoalLexer

/-! ## Characters in bytes -/

namespace Utf8

/-- The character that begins at a byte of a text in UTF-8. A byte below 128 is a character
of its own, which needs no decoding. -/
def charAt (bytes : ByteArray) (offset : Nat) : Option Char :=
  match bytes[offset]? with
  | none => none
  | some byte =>
      if byte < 128 then some (Char.ofUInt8 byte) else bytes.utf8DecodeChar? offset

theorem size_utf8Encode (cs : List Char) : cs.utf8Encode.size = length cs := by
  rw [← length_ofList, ← String.toByteArray_ofList, String.size_toByteArray]

theorem getElem?_utf8Encode (cs : List Char) (i : Nat) :
    cs.utf8Encode[i]? = (cs.flatMap String.utf8EncodeChar)[i]? := by
  unfold List.utf8Encode
  by_cases within : i < (cs.flatMap String.utf8EncodeChar).length
  · rw [getElem?_pos _ _ (by simpa using within), List.getElem_toByteArray,
      List.getElem?_eq_getElem within]
  · rw [getElem?_neg _ _ (by simpa using within), List.getElem?_eq_none_iff.2 (Nat.not_lt.1 within)]

/-- The byte behind a beginning of a text is the first of what follows. -/
theorem getElem?_utf8Encode_append (pre cs : List Char) :
    (pre ++ cs).utf8Encode[length pre]? = (cs.flatMap String.utf8EncodeChar).head? := by
  have size : length pre = (pre.flatMap String.utf8EncodeChar).length := by
    rw [← size_utf8Encode, List.utf8Encode, List.size_toByteArray]
  rw [getElem?_utf8Encode, List.flatMap_append, size, List.getElem?_append_right (Nat.le_refl _),
    Nat.sub_self, List.head?_eq_getElem?]

/-- A first byte below 128 is the whole of its character. -/
theorem ofUInt8_eq {c : Char} {byte : UInt8} (first : (String.utf8EncodeChar c).head? = some byte)
    (low : byte < 128) : Char.ofUInt8 byte = c := by
  rw [UInt8.lt_iff_toNat_lt] at low
  unfold String.utf8EncodeChar at first
  dsimp only at first
  split at first
  · rename_i small
    cases first
    apply Char.ext
    rw [← UInt32.toNat_inj]
    change (UInt8.ofNat c.val.toNat).toUInt32.toNat = c.val.toNat
    rw [UInt8.toNat_toUInt32, UInt8.toNat_ofNat']
    exact Nat.mod_eq_of_lt (by omega)
  · -- the lead byte of a longer character is 192 or more
    split at first
    · cases first
      simp at low
      omega
    · split at first
      · cases first
        simp at low
        omega
      · cases first
        simp at low
        omega

theorem extract_append (pre cs : List Char) :
    (pre ++ cs).utf8Encode.extract (length pre) (pre ++ cs).utf8Encode.size = cs.utf8Encode := by
  rw [List.utf8Encode_append]
  exact ByteArray.extract_append_eq_right (size_utf8Encode pre).symm ByteArray.size_append

/-- **The character in the bytes** behind a beginning of a text is the next one. -/
theorem charAt_append (pre cs : List Char) :
    charAt (pre ++ cs).utf8Encode (length pre) = cs.head? := by
  unfold charAt
  rw [getElem?_utf8Encode_append]
  cases cs with
  | nil => rfl
  | cons c rest =>
      have decoded : (pre ++ c :: rest).utf8Encode.utf8DecodeChar? (length pre) = some c := by
        rw [ByteArray.utf8DecodeChar?_eq_utf8DecodeChar?_extract, extract_append,
          List.utf8DecodeChar?_utf8Encode_cons]
      obtain ⟨byte, more, encoded⟩ :=
        List.exists_cons_of_ne_nil (String.utf8EncodeChar_ne_nil (c := c))
      simp only [List.flatMap_cons, encoded, List.cons_append, List.head?_cons]
      split
      · rename_i low
        rw [ofUInt8_eq (by rw [encoded]; rfl) low]
      · exact decoded

/-- **The bytes behind a beginning of a text** are those of another text exactly if that
comes next. -/
theorem extract_eq_iff (pre cs text : List Char) :
    (pre ++ cs).utf8Encode.extract (length pre) (length pre + length text) = text.utf8Encode ↔
      text <+: cs := by
  have shifted : (pre ++ cs).utf8Encode.extract (length pre) (length pre + length text) =
      cs.utf8Encode.extract 0 (length text) := by
    have moved := ByteArray.extract_append_size_add' (b := cs.utf8Encode) (i := 0)
      (j := length text) (size_utf8Encode pre).symm
    rwa [← List.utf8Encode_append, Nat.add_zero] at moved
  rw [shifted]
  constructor
  · intro same
    have fits : length text ≤ cs.utf8Encode.size := by
      have sizes := congrArg ByteArray.size same
      rw [ByteArray.size_extract, size_utf8Encode text] at sizes
      omega
    apply List.isPrefix_of_utf8Encode_append_eq_utf8Encode
      (cs.utf8Encode.extract (length text) cs.utf8Encode.size)
    rw [← same, ← ByteArray.extract_eq_extract_append_extract _ (Nat.zero_le _) fits,
      ByteArray.extract_zero_size]
  · rintro ⟨rest, rfl⟩
    rw [List.utf8Encode_append]
    exact ByteArray.extract_append_eq_left (size_utf8Encode text).symm

/-! ## Boundaries and slices -/

/-- The offsets between two characters are the valid positions of the string. -/
theorem isBoundary_iff_isValid {source : String} {offset : Nat} :
    isBoundary source.toList offset = true ↔ (String.Pos.Raw.mk offset).IsValid source := by
  rw [String.Pos.Raw.isValid_iff_exists_append]
  constructor
  · intro boundary
    obtain ⟨rest, cut⟩ := Option.isSome_iff_exists.1 boundary
    obtain ⟨pre, whole, size⟩ := exists_of_dropBytes cut
    refine ⟨String.ofList pre, String.ofList rest, ?_, ?_⟩
    · rw [← String.ofList_append, ← whole, String.ofList_toList]
    · apply String.Pos.Raw.ext
      rw [String.byteIdx_rawEndPos, length_ofList, size]
  · rintro ⟨pre, rest, rfl, same⟩
    have size : offset = length pre.toList := by
      rw [length_toList, ← String.byteIdx_rawEndPos, ← same]
    rw [size, String.toList_append]
    exact isBoundary_length pre.toList rest.toList

/-- A slice goes from one boundary to another, and is the bytes between them. -/
theorem slice_cases {text : List Char} {p : Place} (inside : p.IsIn text) (start : Nat) :
    ((start ≤ p.offset ∧ isBoundary text start = true) ∧
      ∃ covered, slice text start p.offset = some covered ∧
        covered.utf8Encode = text.utf8Encode.extract start p.offset) ∨
    ((p.offset < start ∨ isBoundary text start = false) ∧ slice text start p.offset = none) := by
  rcases Nat.lt_or_ge p.offset start with ahead | ordered
  · exact .inr ⟨.inl ahead, if_neg (Nat.not_le.2 ahead)⟩
  cases boundary : isBoundary text start with
  | false =>
      refine .inr ⟨.inr rfl, ?_⟩
      have none : dropBytes text start = none := by
        rw [← Option.isNone_iff_eq_none, ← Option.isSome_eq_false_iff]
        exact boundary
      rw [slice, if_pos ordered, none]
      rfl
  | true =>
      obtain ⟨q, begins, here⟩ := Place.exists_isIn_of_isBoundary boundary
      subst here
      obtain ⟨covered, ⟨post, unread⟩, stops, cut⟩ :=
        begins.exists_isPrefix inside.isBoundary ordered
      refine .inl ⟨⟨ordered, rfl⟩, covered, cut, ?_⟩
      obtain ⟨read, whole, size⟩ := begins.split
      rw [stops, size, whole, eq_comm, extract_eq_iff]
      exact ⟨post, unread⟩

end Utf8

/-! ## Where a cursor stands -/

namespace Cursor

/-- What a cursor tells at an index of the code points of its source. -/
structure StandsAt (xs : List Char) (index : Nat) (c : Cursor) : Prop where
  index_le : index ≤ xs.length
  position : c.place.offset = Utf8.length (xs.take index)
  remaining : c.remaining = String.ofList (xs.drop index)
  peek : c.peek = xs[index]?
  peekNth : ∀ k, c.peekNth k = xs[index + k]?
  isAtEnd : c.isAtEnd = true ↔ index = xs.length

/-- What a cursor tells is read off the bytes of its source at its position. -/
structure ReadsBytes (bytes : ByteArray) (c : Cursor) : Prop where
  remaining : c.remaining.toByteArray = bytes.extract c.place.offset bytes.size
  peek : c.peek = Utf8.charAt bytes c.place.offset
  isAtEnd : c.isAtEnd = true ↔ bytes.size ≤ c.place.offset
  startsWith : ∀ text : String, c.startsWith text = true ↔
    bytes.extract c.place.offset (c.place.offset + text.utf8ByteSize) = text.toByteArray
  sliceFrom : ∀ start text, c.sliceFrom start = .ok text →
    text.toByteArray = bytes.extract start c.place.offset

theorem getElem?_behind (read rest : List Char) (k : Nat) :
    (read ++ rest)[read.length + k]? = rest[k]? := by
  rw [List.getElem?_append_right (Nat.le_add_right _ _), Nat.add_sub_cancel_left]

/-- What has been read gives the index. -/
theorem standsAt_of_split {c : Cursor} {read : List Char}
    (position : c.place.offset = Utf8.length read) :
    c.StandsAt (read ++ c.place.rest) read.length where
  index_le := by simp
  position := by rw [List.take_left, position]
  remaining := by rw [List.drop_left, Cursor.remaining]
  peek := by
    have next := getElem?_behind read c.place.rest 0
    rw [Nat.add_zero, ← List.head?_eq_getElem?] at next
    exact next.symm
  peekNth := fun k => (getElem?_behind read c.place.rest k).symm
  isAtEnd := by
    rw [Cursor.isAtEnd, List.isEmpty_iff, List.length_append, Nat.left_eq_add,
      List.length_eq_zero_iff]

/-- A cursor that reads on stands as many characters further. -/
theorem standsAt_readBy {c : Cursor} {read : List Char}
    (position : c.place.offset = Utf8.length read) {n : Nat} (fits : n ≤ c.place.rest.length) :
    (c.readBy n).StandsAt (read ++ c.place.rest) (read.length + n) := by
  have moved : (c.readBy n).place.offset = Utf8.length (read ++ c.place.rest.take n) := by
    rw [readBy_place, Place.skip_offset, position, Utf8.length_append]
  have stands := standsAt_of_split moved
  rw [readBy_place, Place.skip_rest, List.append_assoc, List.take_append_drop, List.length_append,
    List.length_take, Nat.min_eq_left fits] at stands
  exact stands

/-- **A cursor in its source reads its bytes.** -/
theorem readsBytes_of_isIn {c : Cursor} (inside : c.place.IsIn c.source.toList) :
    c.ReadsBytes c.source.toByteArray := by
  obtain ⟨read, whole, position⟩ := inside.split
  rw [← String.utf8Encode_toList]
  refine ⟨?_, ?_, ?_, ?_, ?_⟩
  · rw [Cursor.remaining, String.toByteArray_ofList, whole, position, Utf8.extract_append]
  · rw [whole, position, Utf8.charAt_append]
    rfl
  · have bytes := Utf8.length_le c.place.rest
    rw [whole, Utf8.size_utf8Encode, Utf8.length_append, position, Cursor.isAtEnd,
      List.isEmpty_iff]
    constructor
    · intro finished
      rw [finished]
      exact Nat.le_refl _
    · intro none
      exact List.length_eq_zero_iff.1 (by omega)
  · intro text
    rw [whole, position, ← Utf8.length_toList, ← String.utf8Encode_toList, Utf8.extract_eq_iff]
    exact List.isPrefixOf_iff_prefix
  · intro start text cut
    unfold Cursor.sliceFrom at cut
    rcases Utf8.slice_cases inside start with ⟨-, covered, found, bytes⟩ | ⟨-, none⟩
    · rw [found] at cut
      cases cut
      rw [String.toByteArray_ofList, bytes]
    · rw [none] at cut
      cases cut

theorem sliceFrom_eq_error_iff {c : Cursor} (inside : c.place.IsIn c.source.toList) (start : Nat) :
    c.sliceFrom start = .error .invalidSlice ↔
      c.place.offset < start ∨ ¬ (String.Pos.Raw.mk start).IsValid c.source := by
  rw [← Utf8.isBoundary_iff_isValid, Bool.not_eq_true]
  unfold Cursor.sliceFrom
  rcases Utf8.slice_cases inside start with
    ⟨⟨ordered, boundary⟩, covered, found, -⟩ | ⟨outside, none⟩
  · simp [found, boundary, Nat.not_lt.2 ordered]
  · simp [none, outside]

/-! ## Runs and texts -/

theorem read_of_advance {c next : Cursor} {ch : Char} {rest : List Char} {read : Option Char}
    (unread : c.place.rest = ch :: rest) (moved : c.advance = .ok (read, next)) :
    read = some ch ∧ next.place.rest = rest := by
  constructor
  · simp only [advance, unread] at moved
    cases after : c.place.after ch rest with
    | error fault =>
        rw [after] at moved
        cases moved
    | ok place =>
        rw [after] at moved
        cases moved
        rfl
  · rw [eq_read_of_advance moved, read_place, Place.step_rest, unread]
    rfl

/-- How a run goes on behind a character that was asked for. -/
def runFrom (p : Char → Bool) : Option Char × Cursor → Except Fault (Nat × Cursor)
  | (none, c) => .ok (0, c)
  | (some _, c) => do
      let (count, last) ← c.eatWhile p
      return (count + 1, last)

/-- **Reading a run** is to read one character after the other, while they are wanted. -/
theorem eatWhile_eq (c : Cursor) (p : Char → Bool) :
    c.eatWhile p = c.eatIf p >>= runFrom p := by
  unfold eatWhile eatIf peek
  cases unread : c.place.rest with
  | nil => rfl
  | cons ch rest =>
      cases wanted : p ch with
      | false =>
          simp only [List.takeWhile_cons, List.head?_cons, Option.any_some, wanted]
          rfl
      | true =>
          simp only [List.takeWhile_cons, List.head?_cons, Option.any_some, wanted, if_true,
            List.length_cons, advanceBy]
          cases moved : c.advance with
          | error fault => rfl
          | ok result =>
              obtain ⟨read, next⟩ := result
              obtain ⟨rfl, later⟩ := read_of_advance unread moved
              simp only [bind, Except.bind, runFrom, eatWhile, later]
              cases next.advanceBy (rest.takeWhile p).length with
              | error fault => rfl
              | ok last => rfl

/-- The longest run is wanted up to its end, and not beyond. -/
theorem takeWhile_longest (p : Char → Bool) (cs : List Char) :
    (∀ k < (cs.takeWhile p).length, cs[k]?.any p = true) ∧
      cs[(cs.takeWhile p).length]?.any p = false := by
  induction cs with
  | nil => exact ⟨fun k impossible => absurd impossible (Nat.not_lt_zero k), rfl⟩
  | cons c cs ih =>
      cases wanted : p c with
      | false => simp [wanted]
      | true =>
          rw [List.takeWhile_cons_of_pos wanted, List.length_cons, List.getElem?_cons_succ]
          refine ⟨?_, ih.2⟩
          intro k within
          cases k with
          | zero => simpa using wanted
          | succ k =>
              rw [List.getElem?_cons_succ]
              exact ih.1 k (Nat.lt_of_succ_lt_succ within)

section

variable {c : Cursor} {read : List Char}

theorem exists_eatWhile (room : c.place.HasRoom) (position : c.place.offset = Utf8.length read)
    (p : Char → Bool) :
    ∃ count last, c.eatWhile p = .ok (count, last) ∧
      last.StandsAt (read ++ c.place.rest) (read.length + count) ∧
      (∀ k < count, (read ++ c.place.rest)[read.length + k]?.any p = true) ∧
      (read ++ c.place.rest)[read.length + count]?.any p = false := by
  obtain ⟨wanted, unwanted⟩ := takeWhile_longest p c.place.rest
  refine ⟨_, c.readBy (c.place.rest.takeWhile p).length, ?_,
    standsAt_readBy position (List.takeWhile_prefix p).length_le, ?_, ?_⟩
  · simp only [eatWhile, advanceBy_eq_readBy room, bind, Except.bind]
    rfl
  · intro k within
    rw [getElem?_behind]
    exact wanted k within
  · rw [getElem?_behind]
    exact unwanted

theorem eatText_eq (room : c.place.HasRoom) (position : c.place.offset = Utf8.length read)
    (text : String) :
    (text.toList <+: c.place.rest → ∃ last, c.eatText text = .ok (true, last) ∧
      last.StandsAt (read ++ c.place.rest) (read.length + text.length)) ∧
    (¬ text.toList <+: c.place.rest → c.eatText text = .ok (false, c)) := by
  constructor
  · intro next
    refine ⟨c.readBy text.toList.length, ?_, ?_⟩
    · have starts : c.startsWith text = true := List.isPrefixOf_iff_prefix.2 next
      simp only [eatText, starts, advanceBy_eq_readBy room, if_true, bind, Except.bind]
      rfl
    · rw [← String.length_toList]
      exact standsAt_readBy position next.length_le
  · intro other
    have differs : ¬ c.startsWith text = true := mt List.isPrefixOf_iff_prefix.1 other
    rw [eatText, if_neg differs]

end

/-- **A cursor refines the code points of its source.** Whatever operations have led it
there, it stands at an index of the code points, and tells what follows it there; it
reads this off the bytes of the source, at its position. A run is read one character
after the other, up to the first that is not wanted, and counted; a text is read if its
code points come next, and otherwise nothing changes. A slice up to the position is
refused if it would start behind it, or inside a character. -/
theorem cursor_refines_code_points (source : String)
    (short : source.utf8ByteSize < counterBound - 1) (operations : List Operation) :
    ∃ walk index, (Walk.ofText source).run operations = .ok walk ∧
      walk.cursor.StandsAt source.toList index ∧ walk.cursor.ReadsBytes source.toByteArray ∧
      (∀ p, walk.cursor.eatWhile p = walk.cursor.eatIf p >>= runFrom p ∧
        ∃ count last, walk.cursor.eatWhile p = .ok (count, last) ∧
          last.StandsAt source.toList (index + count) ∧
          (∀ k < count, source.toList[index + k]?.any p = true) ∧
          source.toList[index + count]?.any p = false) ∧
      (∀ text : String,
        (text.toList <+: source.toList.drop index → ∃ last,
          walk.cursor.eatText text = .ok (true, last) ∧
          last.StandsAt source.toList (index + text.length)) ∧
        (¬ text.toList <+: source.toList.drop index →
          walk.cursor.eatText text = .ok (false, walk.cursor))) ∧
      ∀ start, walk.cursor.sliceFrom start = .error .invalidSlice ↔
        walk.cursor.place.offset < start ∨ ¬ (String.Pos.Raw.mk start).IsValid source := by
  obtain ⟨walk, run, steps⟩ := (Walk.inside_ofText source).exists_steps short operations
  have rooted := (Walk.rooted_ofText source).steps steps
  have room := rooted.inside.cursor.place.hasRoom short
  have inside : walk.cursor.place.IsIn walk.cursor.source.toList := by
    rw [rooted.source]
    exact rooted.inside.cursor.place
  obtain ⟨read, whole, position⟩ := rooted.inside.cursor.place.split
  have bytes := readsBytes_of_isIn inside
  have slices := sliceFrom_eq_error_iff inside
  rw [rooted.source] at bytes slices
  refine ⟨walk, read.length, run, ?_, bytes, ?_, ?_, slices⟩
  · rw [whole]
    exact standsAt_of_split position
  · intro p
    rw [whole]
    exact ⟨walk.cursor.eatWhile_eq p, exists_eatWhile room position p⟩
  · intro text
    rw [whole, List.drop_left]
    exact eatText_eq room position text

/-- Characters of one, two and four bytes: back from the end to the first, and on by one.
The character of two bytes is then behind, and no slice can start within it. -/
theorem cursor_refines_code_points_back :
    "aβ𝒳b".utf8ByteSize < counterBound - 1 ∧
      ∃ walk index,
        (Walk.ofText "aβ𝒳b").run
            [.advance, .snapshot, .eatWhile (· != 'b'), .restore 0, .eatText "β"] = .ok walk ∧
        walk.cursor.place.coordinates = (3, 1, 2) ∧
        walk.cursor.StandsAt "aβ𝒳b".toList index ∧
        walk.cursor.ReadsBytes "aβ𝒳b".toByteArray ∧
        walk.cursor.sliceFrom 2 = .error .invalidSlice := by
  obtain ⟨walk, index, run, stands, bytes, -, -, slices⟩ :=
    cursor_refines_code_points "aβ𝒳b" (by decide)
      [.advance, .snapshot, .eatWhile (· != 'b'), .restore 0, .eatText "β"]
  obtain ⟨_, evaluated, reached⟩ :
      ∃ walk, (Walk.ofText "aβ𝒳b").run
          [.advance, .snapshot, .eatWhile (· != 'b'), .restore 0, .eatText "β"] = .ok walk ∧
        walk.cursor.place.coordinates = (3, 1, 2) := ⟨_, rfl, by decide⟩
  rw [evaluated] at run
  cases run
  refine ⟨by decide, _, index, evaluated, reached, stands, bytes, (slices 2).2 (.inr ?_)⟩
  rw [← Utf8.isBoundary_iff_isValid]
  decide

end Cursor

end GoalLexer
