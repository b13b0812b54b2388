import GoalLexer.Proofs.Lines

/-!
# Snippets and the spans they show

A snippet has the line on which its span starts and underlines the text of the span up to
the end of that line (`Snippet.underlined_eq`). The one place at which this is not the
text around the span is the place between the CR and the LF of a break: the line ends
before it, and nothing is underlined there (`Unbroken.plain_or_split`).

The rendering puts the line and the carets behind margins of one width
(`Snippet.exists_renders`), whatever the number of the line: the carets below stand from
the column of the line on at which the underlined text starts.
-/

set_option autoImplicit false

namespace GoalLexer

/-! ## Places between CR and LF -/

/-- Text without a line end holds no terminator, or it ends with the CR of a pair. -/
theorem Unbroken.plain_or_split {cs rest : List Char} (unbroken : Unbroken cs rest) :
    (∀ c ∈ cs, isLineTerminator c = false) ∨
      ∃ front, cs = front ++ ['\r'] ∧ rest.head? = some '\n' ∧
        ∀ c ∈ front, isLineTerminator c = false := by
  rcases List.eq_nil_or_concat cs with rfl | ⟨front, last, rfl⟩
  · exact .inl (by simp)
  rw [List.concat_eq_append] at unbroken ⊢
  obtain ⟨unbrokenFront, goesOn⟩ := Unbroken.concat_iff.1 unbroken
  rcases endsLine_eq_false_iff.1 goesOn with plain | ⟨rfl, feed⟩
  · have noFeed : (last :: rest).head? ≠ some '\n' := by
      rintro ⟨⟩
      cases plain
    refine .inl ?_
    intro c listed
    rcases List.mem_append.1 listed with old | new
    · exact unbrokenFront.plain noFeed c old
    · rw [List.mem_singleton.1 new]
      exact plain
  · exact .inr ⟨front, rfl, feed, unbrokenFront.plain (by simp)⟩

/-- Between the CR and the LF of a break the line has ended one character before. -/
theorem Place.OnLine.lineText_split {file : SourceFile} {passed : List Nat}
    {before front : List Char} {p : Place}
    (on : OnLine file.chars passed before (front ++ ['\r']) p) (feed : p.rest.head? = some '\n')
    (plain : ∀ c ∈ front, isLineTerminator c = false) :
    file.lineText p.line = .ok (String.ofList front) := by
  obtain ⟨mark, terminators, cut⟩ := on.exists_slice_line
  obtain ⟨rest, unread⟩ := List.head?_eq_some_iff.1 feed
  have noMore : firstLine p.rest = [] := by
    rw [unread]
    rfl
  rw [noMore, List.append_nil, List.append_assoc] at cut
  have trimmed : trimTerminators (front ++ (['\r'] ++ mark)) = front := by
    refine trimTerminators_append plain ?_
    intro c listed
    rcases List.mem_cons.1 listed with rfl | later
    · rfl
    · exact terminators c later
  unfold SourceFile.lineText
  simp only [on.lineStart_line, SourceFile.textBetween, bind, Except.bind, cut, trimmed]
  rfl

/-! ## What is underlined -/

namespace Snippet

variable {file : SourceFile} {span : Span} {s : Snippet}

/-- What is known of the snippet of a span. -/
theorem ofSpan_spec (made : ofSpan file span = .ok s) :
    file.lineCol span.start = .ok (s.lineNumber, s.startColumn) ∧
      file.lineText s.lineNumber = .ok s.line ∧ s.label = none ∧
      s.endColumn =
        max (min (s.startColumn + width file span) s.line.toList.length) s.startColumn := by
  unfold ofSpan at made
  cases located : file.lineCol span.start with
  | error cause =>
      rw [located] at made
      cases made
  | ok found =>
      simp only [located, bind, Except.bind] at made
      cases text : file.lineText found.1 with
      | error cause =>
          rw [text] at made
          cases made
      | ok line =>
          rw [text] at made
          cases made
          exact ⟨rfl, text, rfl, rfl⟩

theorem ofSpan_eq_error_iff {cause : LocateError} :
    ofSpan file span = .error cause ↔ file.lineCol span.start = .error cause := by
  cases located : file.lineCol span.start with
  | error other =>
      have passedOn : ofSpan file span = .error other := by
        unfold ofSpan
        rw [located]
        rfl
      rw [passedOn, Except.error.injEq, Except.error.injEq]
  | ok found =>
      have boundary := (SourceFile.lineCol_eq_ok_iff.1 located).isBoundary
      obtain ⟨s, made⟩ := exists_ofSpan boundary
      simp [made]

/-- **What is underlined** is the text of the span up to its first line terminator. -/
theorem underlined_eq (made : ofSpan file span = .ok s)
    (boundary : Utf8.isBoundary file.chars span.stop = true) :
    ∃ text, Utf8.slice file.chars span.start span.stop = some text ∧
      s.underlined = firstLine text := by
  obtain ⟨located, line, -, -⟩ := ofSpan_spec made
  obtain ⟨p, inside, here⟩ :=
    Place.exists_isIn_of_isBoundary (SourceFile.lineCol_eq_ok_iff.1 located).isBoundary
  have ordered : p.offset ≤ span.stop := by
    rw [here]
    exact span.start_le_stop
  obtain ⟨text, isPrefix, stops, slice⟩ := inside.exists_isPrefix boundary ordered
  rw [here] at slice
  refine ⟨text, slice, ?_⟩
  obtain ⟨passed, before, front, on⟩ := inside.onLine
  rcases on.unbroken.plain_or_split with plain | ⟨front, rfl, feed, plain⟩
  · rw [ofSpan_eq on plain here.symm isPrefix stops] at made
    cases made
    exact underlined_covering on.column isPrefix
  · -- the line ends before the place, and the text, if there is any, begins with the LF
    rw [← here, on.lineCol] at located
    obtain ⟨sameLine, sameColumn⟩ := Prod.mk.inj (Except.ok.inj located)
    rw [← sameLine, on.lineText_split feed plain] at line
    have behind : s.line.toList.length ≤ s.startColumn := by
      rw [← sameColumn, on.column, ← Except.ok.inj line, String.toList_ofList, List.length_append]
      exact Nat.le_add_right _ _
    have nothing : firstLine text = [] := by
      obtain ⟨rest, unread⟩ := List.head?_eq_some_iff.1 feed
      rw [unread] at isPrefix
      cases text with
      | nil => rfl
      | cons c text =>
          obtain ⟨rfl, -⟩ := List.cons_prefix_cons.1 isPrefix
          rfl
    rw [nothing, underlined, List.drop_eq_nil_of_le behind, List.take_nil]

theorem startColumn_le_endColumn_le (made : ofSpan file span = .ok s) :
    s.startColumn ≤ s.endColumn ∧ s.endColumn ≤ max s.startColumn s.line.length := by
  obtain ⟨-, -, -, stops⟩ := ofSpan_spec made
  rw [String.length_toList] at stops
  omega

end Snippet

/-! ## Rows -/

/-- Copies of an element stand behind a list that does not hold it. -/
theorem getElem?_append_replicate_iff {pre : List Char} {c : Char} (absent : c ∉ pre) (n k : Nat) :
    (pre ++ List.replicate n c)[k]? = some c ↔ pre.length ≤ k ∧ k < pre.length + n := by
  rcases Nat.lt_or_ge k pre.length with early | late
  · rw [List.getElem?_append_left early]
    refine iff_of_false ?_ (fun within => Nat.not_le.2 early within.1)
    intro found
    exact absent (List.mem_of_getElem? found)
  · rw [List.getElem?_append_right late, List.getElem?_replicate]
    simp only [ite_eq_left_iff, reduceCtorEq, imp_false, Decidable.not_not]
    omega

namespace Snippet

variable {s : Snippet}

/-- Two rows render a snippet: above is the line, behind a margin, and below are carets,
from the start column of the line up to the end column, or one if there is no text
between them. -/
structure Renders (s : Snippet) (margin : Nat) (above below : List Char) : Prop where
  format_eq : s.format = String.ofList (above ++ '\n' :: below)
  oneRow : '\n' ∉ above ∧ '\n' ∉ below
  line : ∀ k, above[margin + k]? = s.line.toList[k]?
  caret : ∀ k, below[k]? = some '^' ↔
    margin + s.startColumn ≤ k ∧ k < margin + max s.endColumn (s.startColumn + 1)

theorem length_number_leftpad (s : Snippet) :
    ((Nat.toDigits 10 s.lineNumber).leftpad s.gutter ' ').length = s.gutter := by
  rw [List.length_leftpad, gutter]
  omega

/-- **The rows** of a snippet without a label, on a line that holds no terminator. -/
theorem exists_renders (unlabelled : s.label = none)
    (plain : ∀ c ∈ s.line.toList, isLineTerminator c = false) :
    ∃ margin, s.Renders margin s.sourceRow s.caretRow := by
  have below : s.caretRow =
      (List.replicate s.gutter ' ' ++ [' ', '|', ' '] ++ List.replicate s.startColumn ' ') ++
        List.replicate (max (s.endColumn - s.startColumn) 1) '^' := by
    simp only [caretRow, unlabelled, List.append_nil]
  refine ⟨s.gutter + 3, rfl, ⟨?_, ?_⟩, ?_, ?_⟩
  · have noFeed : '\n' ∉ s.line.toList := by
      intro listed
      cases plain '\n' listed
    have noDigit : '\n' ∉ Nat.toDigits 10 s.lineNumber := by
      intro listed
      cases Nat.isDigit_of_mem_toDigits (by decide) (by decide) listed
    simp [sourceRow, noFeed, noDigit]
  · simp [below, List.mem_replicate]
  · intro k
    have margin : ((Nat.toDigits 10 s.lineNumber).leftpad s.gutter ' ' ++ [' ', '|', ' ']).length =
        s.gutter + 3 := by
      rw [List.length_append, length_number_leftpad]
      rfl
    rw [sourceRow, List.getElem?_append_right (by omega), margin, Nat.add_sub_cancel_left]
  · intro k
    have ordered := s.start_le_end
    rw [below, getElem?_append_replicate_iff (by simp [List.mem_replicate])]
    simp only [List.length_append, List.length_replicate, List.length_cons, List.length_nil]
    omega

/-- **Snippets point at what their spans cover.** A span has a snippet if its start has a
line and a column, and otherwise the same error. The snippet has that line, and the
columns underlined stay within it or are none; they are ordered, so that the number of
carets is never below zero. If the span ends between two characters of the content, what
is underlined is its text up to the first line terminator. The rendering is two rows, in
which the carets, one at least, start below the character of the line at which the
underlined columns start, whatever the number of the line. -/
theorem ofSpan_points_at_span (file : SourceFile) (span : Span)
    (short : file.content.utf8ByteSize < counterBound - 1) :
    (∀ cause, ofSpan file span = .error cause ↔ file.lineCol span.start = .error cause) ∧
    ∀ s, ofSpan file span = .ok s →
      (file.lineCol span.start = .ok (s.lineNumber, s.startColumn) ∧
        file.lineText s.lineNumber = .ok s.line ∧
        s.lineNumber < counterBound ∧ s.startColumn < counterBound) ∧
      (s.startColumn ≤ s.endColumn ∧ s.endColumn ≤ max s.startColumn s.line.length) ∧
      (span.stop ≤ file.content.utf8ByteSize → ¬ Utf8.InsideChar file.chars span.stop →
        ∃ text, Utf8.slice file.chars span.start span.stop = some text ∧
          s.underlined = firstLine text) ∧
      ∃ margin above below, s.Renders margin above below := by
  refine ⟨fun cause => ofSpan_eq_error_iff, ?_⟩
  intro s made
  obtain ⟨located, line, unlabelled, -⟩ := ofSpan_spec made
  refine ⟨⟨located, line, ?_⟩, startColumn_le_endColumn_le made, ?_, ?_⟩
  · obtain ⟨p, inside, answer, -⟩ :=
      SourceFile.exists_place_of_isBoundary (SourceFile.lineCol_eq_ok_iff.1 located).isBoundary
    obtain ⟨sameLine, sameColumn⟩ := Prod.mk.inj (Except.ok.inj (located.symm.trans answer))
    have room : p.line + p.column + p.rest.length < counterBound := inside.hasRoom short
    omega
  · intro within outside
    rw [← Utf8.length_toList] at within
    exact underlined_eq made ((Utf8.isBoundary_or_insideChar within).resolve_right outside)
  · obtain ⟨margin, renders⟩ := exists_renders unlabelled (SourceFile.plain_of_lineText line)
    exact ⟨margin, _, _, renders⟩

/-- A comment that runs over a CR LF is underlined on its first line, behind a character of
two bytes. -/
theorem ofSpan_points_at_span_comment :
    "ñ /* a\r\nb".utf8ByteSize < counterBound - 1 ∧
      ∃ s, ofSpan ⟨"a.js", "ñ /* a\r\nb"⟩ ⟨3, 10, 1, 2, by decide⟩ = .ok s ∧
        s.format = "  1 | ñ /* a\n    |   ^^^^" ∧
        (∃ text, Utf8.slice "ñ /* a\r\nb".toList 3 10 = some text ∧
          s.underlined = firstLine text) ∧
        ∃ margin above below, s.Renders margin above below := by
  obtain ⟨-, points⟩ := ofSpan_points_at_span ⟨"a.js", "ñ /* a\r\nb"⟩ ⟨3, 10, 1, 2, by decide⟩
    (by decide)
  obtain ⟨-, -, underlined, renders⟩ := points _ rfl
  refine ⟨by decide, _, rfl, by decide, underlined (by decide) ?_, renders⟩
  exact Utf8.not_insideChar_of_isBoundary (by decide)

end Snippet

end GoalLexer
