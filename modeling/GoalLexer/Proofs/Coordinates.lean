import GoalLexer.Proofs.Lookups

/-!
# Coordinates of offsets

Line and column point at an offset (`SourceFile.PointsAt`) when the line starts no later
than it, the next line starts behind it, and as many characters as the column counts lead
from the start of the line to it. This speaks of the line starts alone, and of no search.

`lineCol` is the inverse: it answers one of three things (`SourceFile.lineCol_cases`), and the
line and column that it finds are what points at the offset
(`SourceFile.lineCol_eq_ok_iff`). The offsets of a file for which it finds none are those
inside a character (`Utf8.InsideChar`). Offsets are ordered as their
coordinates are, lines first (`SourceFile.PointsAt.lt_iff`), so there is one pair of
coordinates for an offset, and one offset for a pair.
-/

set_option autoImplicit false

namespace GoalLexer

/-! ## Offsets inside a character -/

namespace Utf8

/-- The offset lies behind the first byte of a character, and before the end of it. -/
def InsideChar (cs : List Char) (offset : Nat) : Prop :=
  ∃ pre c post, cs = pre ++ c :: post ∧ length pre < offset ∧ offset < length pre + c.utf8Size

theorem isBoundary_or_insideChar {cs : List Char} {offset : Nat} (within : offset ≤ length cs) :
    isBoundary cs offset = true ∨ InsideChar cs offset := by
  induction cs generalizing offset with
  | nil =>
      rw [length_nil, Nat.le_zero] at within
      subst within
      exact .inl rfl
  | cons c cs ih =>
      rw [length_cons] at within
      rcases Nat.lt_or_ge offset c.utf8Size with early | late
      · cases offset with
        | zero => exact .inl rfl
        | succ n => exact .inr ⟨[], c, cs, rfl, Nat.succ_pos n, by simpa using early⟩
      · obtain ⟨more, rfl⟩ := Nat.exists_eq_add_of_le late
        rcases ih (Nat.le_of_add_le_add_left within) with boundary | ⟨pre, d, post, rfl, low, high⟩
        · obtain ⟨rest, cut⟩ := Option.isSome_iff_exists.1 boundary
          obtain ⟨pre, rfl, rfl⟩ := exists_of_dropBytes cut
          exact .inl (isBoundary_length (c :: pre) rest)
        · refine .inr ⟨c :: pre, d, post, rfl, ?_, ?_⟩
          · rw [length_cons]
            omega
          · rw [length_cons]
            omega

theorem le_length_of_isBoundary {cs : List Char} {offset : Nat}
    (boundary : isBoundary cs offset = true) : offset ≤ length cs := by
  obtain ⟨rest, cut⟩ := Option.isSome_iff_exists.1 boundary
  obtain ⟨read, rfl, rfl⟩ := exists_of_dropBytes cut
  rw [length_append]
  exact Nat.le_add_right _ _

theorem not_insideChar_of_isBoundary {cs : List Char} {offset : Nat}
    (boundary : isBoundary cs offset = true) : ¬ InsideChar cs offset := by
  obtain ⟨rest, cut⟩ := Option.isSome_iff_exists.1 boundary
  obtain ⟨read, rfl, rfl⟩ := exists_of_dropBytes cut
  rintro ⟨pre, c, post, text, low, high⟩
  -- of two beginnings of the text one begins the other
  rcases List.append_eq_append_iff.1 text with ⟨more, rfl, -⟩ | ⟨more, rfl, tail⟩
  · rw [length_append] at low
    omega
  · cases more with
    | nil =>
        rw [List.append_nil] at low
        omega
    | cons d more =>
        obtain ⟨rfl, -⟩ := List.cons.inj tail
        rw [length_append, length_cons] at high
        omega

/-- More characters are more bytes. -/
theorem length_take_lt {cs : List Char} {m n : Nat} (fewer : m < n) (fits : n ≤ cs.length) :
    length (cs.take m) < length (cs.take n) := by
  obtain ⟨more, rfl⟩ := Nat.exists_eq_add_of_lt fewer
  have some : ((cs.drop m).take (more + 1)).length = more + 1 := by
    rw [List.length_take, List.length_drop]
    omega
  have bytes := length_le ((cs.drop m).take (more + 1))
  rw [Nat.add_assoc, List.take_add, length_append]
  omega

theorem length_take_lt_iff {cs : List Char} {m n : Nat} (fits : m ≤ cs.length)
    (fitsToo : n ≤ cs.length) : length (cs.take m) < length (cs.take n) ↔ m < n := by
  refine ⟨?_, fun fewer => length_take_lt fewer fitsToo⟩
  intro shorter
  rcases Nat.lt_trichotomy m n with fewer | rfl | more
  · exact fewer
  · exact absurd shorter (Nat.lt_irrefl _)
  · exact absurd shorter (Nat.lt_asymm (length_take_lt more fits))

end Utf8

/-! ## Lines and columns that point at an offset -/

namespace SourceFile

/-- The line is one of the file and starts no later than the offset, the column counts
the characters from there to the offset, and the next line starts behind it. -/
structure PointsAt (file : SourceFile) (line column offset : Nat) : Prop where
  one_le : 1 ≤ line
  le_count : line ≤ file.lineCount
  start : ∃ before rest, file.chars = before ++ rest ∧
    file.lineStart line = .ok (Utf8.length before) ∧ Utf8.length before ≤ offset ∧
    column ≤ rest.length ∧ offset = Utf8.length before + Utf8.length (rest.take column)
  next : line < file.lineCount → ∃ stop, file.lineStart (line + 1) = .ok stop ∧ offset < stop

variable {file : SourceFile}

theorem lineStart_succ_iff {index start : Nat} :
    file.lineStart (index + 1) = .ok start ↔ file.lineStarts[index]? = some start := by
  simp only [lineStart]
  cases file.lineStarts[index]? with
  | none => simp
  | some other => simp

/-- Later lines start later. -/
theorem lineStart_lt {line later start stop : Nat} (known : file.lineStart line = .ok start)
    (knownLater : file.lineStart later = .ok stop) (order : line < later) : start < stop := by
  obtain ⟨index, rfl⟩ : ∃ index, line = index + 1 := by
    cases line with
    | zero => cases known
    | succ index => exact ⟨index, rfl⟩
  obtain ⟨other, rfl⟩ := Nat.exists_eq_add_of_lt order
  rw [lineStart_succ_iff] at known knownLater
  obtain ⟨inRange, rfl⟩ := List.getElem?_eq_some_iff.1 known
  obtain ⟨inRangeLater, rfl⟩ := List.getElem?_eq_some_iff.1 knownLater
  exact List.pairwise_iff_getElem.1 file.pairwise_lineStarts index (index + 1 + other)
    inRange inRangeLater (by omega)

theorem lineStart_le {line later start stop : Nat} (known : file.lineStart line = .ok start)
    (knownLater : file.lineStart later = .ok stop) (order : line ≤ later) : start ≤ stop := by
  rcases Nat.eq_or_lt_of_le order with rfl | behind
  · rw [known] at knownLater
    exact Nat.le_of_eq (Except.ok.inj knownLater)
  · exact Nat.le_of_lt (lineStart_lt known knownLater behind)

namespace PointsAt

variable {line column offset line' column' offset' : Nat}

/-- Offsets on an earlier line are smaller. -/
theorem lt_of_line_lt (points : file.PointsAt line column offset)
    (other : file.PointsAt line' column' offset') (earlier : line < line') : offset < offset' := by
  obtain ⟨stop, next, behind⟩ := points.next (Nat.lt_of_lt_of_le earlier other.le_count)
  obtain ⟨before, rest, -, start, notBehind, -⟩ := other.start
  exact Nat.lt_of_lt_of_le behind (Nat.le_trans (lineStart_le next start earlier) notBehind)

/-- On one line offsets are ordered as columns are. -/
theorem lt_iff_column_lt (points : file.PointsAt line column offset)
    (other : file.PointsAt line column' offset') : offset < offset' ↔ column < column' := by
  obtain ⟨before, rest, text, start, -, fits, rfl⟩ := points.start
  obtain ⟨before', rest', text', start', -, fits', rfl⟩ := other.start
  rw [start] at start'
  have same : before = before' :=
    Utf8.eq_of_length_eq (text.symm.trans text') (Except.ok.inj start')
  subst same
  have sameRest : rest = rest' := List.append_cancel_left (text.symm.trans text')
  subst sameRest
  rw [Nat.add_lt_add_iff_left]
  exact Utf8.length_take_lt_iff fits fits'

/-- **Offsets are ordered as their coordinates**, lines first. -/
theorem lt_iff (points : file.PointsAt line column offset)
    (other : file.PointsAt line' column' offset') :
    offset < offset' ↔ Prod.Lex (· < ·) (· < ·) (line, column) (line', column') := by
  rw [Prod.lex_def]
  rcases Nat.lt_trichotomy line line' with earlier | rfl | later
  · exact ⟨fun _ => .inl earlier, fun _ => points.lt_of_line_lt other earlier⟩
  · rw [points.lt_iff_column_lt other]
    simp
  · have behind := other.lt_of_line_lt points later
    constructor
    · intro before
      omega
    · intro lex
      dsimp only at lex
      omega

/-- An offset has one line and column. -/
theorem unique (points : file.PointsAt line column offset)
    (other : file.PointsAt line' column' offset) : (line, column) = (line', column') := by
  have notBefore := mt (points.lt_iff other).2 (Nat.lt_irrefl offset)
  have notBehind := mt (other.lt_iff points).2 (Nat.lt_irrefl offset)
  rw [Prod.lex_def] at notBefore notBehind
  dsimp only at notBefore notBehind
  rw [Prod.mk.injEq]
  omega

/-- Line and column point at one offset. -/
theorem offset_unique (points : file.PointsAt line column offset)
    (other : file.PointsAt line column offset') : offset = offset' := by
  have notBefore := mt (points.lt_iff_column_lt other).1 (Nat.lt_irrefl column)
  have notBehind := mt (other.lt_iff_column_lt points).1 (Nat.lt_irrefl column)
  omega

theorem isBoundary (points : file.PointsAt line column offset) :
    Utf8.isBoundary file.chars offset = true := by
  obtain ⟨before, rest, text, -, -, -, rfl⟩ := points.start
  have boundary := Utf8.isBoundary_length (before ++ rest.take column) (rest.drop column)
  rwa [List.append_assoc, List.take_append_drop, ← text, Utf8.length_append] at boundary

end PointsAt

end SourceFile

/-! ## The inverse -/

/-- The line and column of a place point at its offset. -/
theorem Place.OnLine.pointsAt {file : SourceFile} {passed : List Nat} {before here : List Char}
    {p : Place} (on : OnLine file.chars passed before here p) :
    file.PointsAt p.line p.column p.offset where
  one_le := by
    rw [on.line]
    omega
  le_count := on.line_le
  start := by
    refine ⟨before, here ++ p.rest, on.text_eq, on.lineStart_line, ?_, ?_, ?_⟩
    · rw [on.offset, Utf8.length_append]
      omega
    · rw [on.column, List.length_append]
      omega
    · rw [on.column, List.take_left, on.offset, Utf8.length_append]
  next := by
    intro more
    have found := List.getElem?_eq_getElem more
    exact ⟨_, SourceFile.lineStart_succ_iff.2 found, on.lt_of_lineStarts found (Nat.le_refl _)⟩

namespace SourceFile

variable {file : SourceFile} {offset : Nat}

theorem exists_place_of_isBoundary (boundary : Utf8.isBoundary file.chars offset = true) :
    ∃ p : Place, p.IsIn file.chars ∧ file.lineCol offset = .ok (p.line, p.column) ∧
      file.PointsAt p.line p.column offset := by
  obtain ⟨p, inside, rfl⟩ := Place.exists_isIn_of_isBoundary boundary
  obtain ⟨passed, before, here, on⟩ := inside.onLine
  exact ⟨p, inside, on.lineCol, on.pointsAt⟩

/-- **What `lineCol` answers**: that the offset is past the end, that it is inside a
character, or the line and column of a place, which point at it. -/
theorem lineCol_cases (file : SourceFile) (offset : Nat) :
    (file.size < offset ∧
      file.lineCol offset = .error (.offsetOutOfBounds offset file.size)) ∨
    ((offset ≤ file.size ∧ Utf8.InsideChar file.chars offset) ∧
      file.lineCol offset = .error (.notCharBoundary offset)) ∨
    ((offset ≤ file.size ∧ ¬ Utf8.InsideChar file.chars offset) ∧
      ∃ p : Place, p.IsIn file.chars ∧ file.lineCol offset = .ok (p.line, p.column) ∧
        file.PointsAt p.line p.column offset) := by
  rcases Nat.lt_or_ge file.size offset with beyond | within
  · exact .inl ⟨beyond, by rw [lineCol, if_pos beyond]⟩
  cases boundary : Utf8.isBoundary file.chars offset with
  | true =>
      exact .inr (.inr ⟨⟨within, Utf8.not_insideChar_of_isBoundary boundary⟩,
        exists_place_of_isBoundary boundary⟩)
  | false =>
      have inside : Utf8.InsideChar file.chars offset :=
        (Utf8.isBoundary_or_insideChar within).resolve_left (by simp [boundary])
      refine .inr (.inl ⟨⟨within, inside⟩, ?_⟩)
      rw [lineCol, if_neg (Nat.not_lt.2 within), boundary]
      rfl

theorem lineCol_eq_offsetOutOfBounds_iff :
    file.lineCol offset = .error (.offsetOutOfBounds offset file.size) ↔ file.size < offset := by
  rcases file.lineCol_cases offset with
    ⟨beyond, answer⟩ | ⟨⟨within, -⟩, answer⟩ | ⟨⟨within, -⟩, p, -, answer, -⟩
  · exact iff_of_true answer beyond
  · exact iff_of_false (by simp [answer]) (Nat.not_lt.2 within)
  · exact iff_of_false (by simp [answer]) (Nat.not_lt.2 within)

theorem lineCol_eq_notCharBoundary_iff :
    file.lineCol offset = .error (.notCharBoundary offset) ↔
      offset ≤ file.size ∧ Utf8.InsideChar file.chars offset := by
  rcases file.lineCol_cases offset with
    ⟨beyond, answer⟩ | ⟨inside, answer⟩ | ⟨⟨-, outside⟩, p, -, answer, -⟩
  · exact iff_of_false (by simp [answer]) fun inside => Nat.not_lt.2 inside.1 beyond
  · exact iff_of_true answer inside
  · exact iff_of_false (by simp [answer]) fun inside => outside inside.2

/-- **`lineCol` finds what points at an offset**, and nothing else. -/
theorem lineCol_eq_ok_iff {line column : Nat} :
    file.lineCol offset = .ok (line, column) ↔ file.PointsAt line column offset := by
  constructor
  · intro found
    rcases file.lineCol_cases offset with ⟨-, answer⟩ | ⟨-, answer⟩ | ⟨-, p, -, answer, points⟩
    · rw [answer] at found
      cases found
    · rw [answer] at found
      cases found
    · rw [answer] at found
      cases found
      exact points
  · intro points
    obtain ⟨p, -, answer, known⟩ := exists_place_of_isBoundary points.isBoundary
    rw [answer, points.unique known]

/-- **`lineCol` inverts the line starts.** An offset past the end of the file and an
offset inside a character are refused, each for its own reason, and every other offset
has a line and a column, which the counters can hold. They are what points at the offset:
the line starts no later than it, the next line behind it, and the characters counted by
the column lead to it. Offsets that have coordinates are ordered as these are, lines
first, and different offsets have different coordinates. -/
theorem lineCol_inverts_lineStart (file : SourceFile) (offset : Nat)
    (short : file.content.utf8ByteSize < counterBound - 1) :
    (file.lineCol offset = .error (.offsetOutOfBounds offset file.content.utf8ByteSize) ↔
      file.content.utf8ByteSize < offset) ∧
    (file.lineCol offset = .error (.notCharBoundary offset) ↔
      offset ≤ file.content.utf8ByteSize ∧ Utf8.InsideChar file.chars offset) ∧
    (offset ≤ file.content.utf8ByteSize → ¬ Utf8.InsideChar file.chars offset →
      ∃ line column, file.lineCol offset = .ok (line, column) ∧
        line < counterBound ∧ column < counterBound) ∧
    (∀ line column, file.lineCol offset = .ok (line, column) ↔
      file.PointsAt line column offset) ∧
    (∀ other here there, file.lineCol offset = .ok here → file.lineCol other = .ok there →
      (offset < other ↔ Prod.Lex (· < ·) (· < ·) here there) ∧
      (offset ≠ other → here ≠ there)) := by
  have size : file.size = file.content.utf8ByteSize := Utf8.length_toList file.content
  rw [← size]
  refine ⟨lineCol_eq_offsetOutOfBounds_iff, lineCol_eq_notCharBoundary_iff, ?_,
    fun line column => lineCol_eq_ok_iff, ?_⟩
  · intro within outside
    rcases file.lineCol_cases offset with
      ⟨beyond, -⟩ | ⟨⟨-, inside⟩, -⟩ | ⟨-, p, inside, answer, -⟩
    · exact absurd within (Nat.not_le.2 beyond)
    · exact absurd inside outside
    · have room : p.line + p.column + p.rest.length < counterBound := inside.hasRoom short
      exact ⟨p.line, p.column, answer, by omega, by omega⟩
  · rintro other ⟨line, column⟩ ⟨line', column'⟩ found foundOther
    have points := lineCol_eq_ok_iff.1 found
    have pointsOther := lineCol_eq_ok_iff.1 foundOther
    refine ⟨points.lt_iff pointsOther, ?_⟩
    intro apart same
    cases same
    exact apart (points.offset_unique pointsOther)

/-- A character of two bytes and the pair CR LF: the second byte of the one has no
coordinates, and the place between the other two is still on the first line. -/
theorem lineCol_inverts_lineStart_pair :
    "é\r\nx".utf8ByteSize < counterBound - 1 ∧
      (SourceFile.mk "a.js" "é\r\nx").lineCol 1 = .error (.notCharBoundary 1) ∧
      (SourceFile.mk "a.js" "é\r\nx").PointsAt 1 2 3 ∧
      (SourceFile.mk "a.js" "é\r\nx").PointsAt 2 0 4 ∧
      ((3 : Nat) < 4 ↔ Prod.Lex (· < ·) (· < ·) ((1 : Nat), (2 : Nat)) ((2 : Nat), (0 : Nat))) := by
  obtain ⟨-, inside, -⟩ := lineCol_inverts_lineStart ⟨"a.js", "é\r\nx"⟩ 1 (by decide)
  obtain ⟨-, -, -, points, order⟩ := lineCol_inverts_lineStart ⟨"a.js", "é\r\nx"⟩ 3 (by decide)
  obtain ⟨-, -, -, pointsNext, -⟩ := lineCol_inverts_lineStart ⟨"a.js", "é\r\nx"⟩ 4 (by decide)
  refine ⟨by decide, inside.2 ⟨by decide, [], 'é', ['\r', '\n', 'x'], rfl, by decide, by decide⟩,
    (points 1 2).1 rfl, (pointsNext 2 0).1 rfl, ?_⟩
  exact (order 4 (1, 2) (2, 0) rfl rfl).1

end SourceFile

end GoalLexer
