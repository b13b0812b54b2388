import GoalLexer.Proofs.Coordinates

/-!
# Lines

The breaks of a text cut it into lines (`CutsInto`): each line but the last is a text
without terminators and one break, and a CR is a break of its own only where no LF
follows. Every text is cut in this way (`exists_cutsInto`), and the line index of a file
lists where the parts begin (`CutsInto.getElem?_starts`). So the text that a line of the
file has is the part itself: of a line between two starts exactly one break is cut off,
however many terminators stand before or behind it (`CutsInto.lineText_broken`).

`SourceFile.lines_partition_content` puts this together with the order of the line starts,
and with the numbers for which there is no line.
-/

set_option autoImplicit false

namespace GoalLexer

/-! ## Texts cut at their breaks -/

/-- Lines with the breaks that end them, one after the other. -/
def joined (lines : List (List Char × LineBreak)) : List Char :=
  lines.flatMap fun line => line.1 ++ line.2.chars

@[simp] theorem joined_nil : joined [] = [] := rfl

@[simp] theorem joined_cons (line : List Char × LineBreak) (lines : List (List Char × LineBreak)) :
    joined (line :: lines) = line.1 ++ line.2.chars ++ joined lines := rfl

theorem joined_append (lines more : List (List Char × LineBreak)) :
    joined (lines ++ more) = joined lines ++ joined more :=
  List.flatMap_append

/-- A text is `lines` with their breaks and then `last`, which has none. Terminators stand
in the breaks alone, and a break that is a CR has no LF behind it. -/
inductive CutsInto : List Char → List (List Char × LineBreak) → List Char → Prop
  | last {text : List Char} (plain : ∀ c ∈ text, isLineTerminator c = false) :
      CutsInto text [] text
  | line {text rest last : List Char} {lines : List (List Char × LineBreak)} {ending : LineBreak}
      (plain : ∀ c ∈ text, isLineTerminator c = false)
      (alone : ending = .carriageReturn → rest.head? ≠ some '\n')
      (cut : CutsInto rest lines last) :
      CutsInto (text ++ (ending.chars ++ rest)) ((text, ending) :: lines) last

/-- **Every text is cut** at its breaks. -/
theorem exists_cutsInto (cs : List Char) : ∃ lines last, CutsInto cs lines last := by
  induction size : cs.length using Nat.strongRecOn generalizing cs with
  | _ n ih =>
      obtain ⟨tail, split, first⟩ := exists_firstLine_append cs
      have plain := plain_firstLine cs
      generalize firstLine cs = text at split plain
      subst split
      cases tail with
      | nil =>
          rw [List.append_nil]
          exact ⟨[], text, .last plain⟩
      | cons c tail =>
          obtain ⟨ending, rest, same, alone⟩ := exists_lineBreak tail (first c rfl)
          have shorter : rest.length < n := by
            have lengths := congrArg List.length same
            have some := ending.chars_length_pos
            rw [List.length_append] at lengths size
            omega
          obtain ⟨lines, last, cut⟩ := ih rest.length shorter rest rfl
          rw [same]
          exact ⟨(text, ending) :: lines, last, .line plain alone cut⟩

namespace CutsInto

variable {cs last : List Char} {lines : List (List Char × LineBreak)}

theorem eq_joined (cut : CutsInto cs lines last) : cs = joined lines ++ last := by
  induction cut with
  | last plain => rfl
  | line plain alone cut ih =>
      rw [joined_cons, List.append_assoc, List.append_assoc, ← ih]

theorem plain_last (cut : CutsInto cs lines last) : ∀ c ∈ last, isLineTerminator c = false := by
  induction cut with
  | last plain => exact plain
  | line plain alone cut ih => exact ih

theorem plain_line (cut : CutsInto cs lines last) {line : List Char × LineBreak}
    (listed : line ∈ lines) : ∀ c ∈ line.1, isLineTerminator c = false := by
  induction cut with
  | last plain => cases listed
  | line plain alone cut ih =>
      rcases List.mem_cons.1 listed with rfl | later
      · exact plain
      · exact ih later

/-- What follows a CR that is a break does not begin with an LF. -/
theorem head?_ne_feed (cut : CutsInto cs lines last) {before after : List (List Char × LineBreak)}
    {text : List Char} (split : lines = before ++ (text, .carriageReturn) :: after) :
    (joined after ++ last).head? ≠ some '\n' := by
  induction cut generalizing before with
  | last plain => simp at split
  | line plain alone cut ih =>
      cases before with
      | nil =>
          obtain ⟨same, rfl⟩ := List.cons.inj split
          rw [← cut.eq_joined]
          exact alone (congrArg Prod.snd same)
      | cons first before => exact ih (List.cons.inj split).2

theorem lineBreaks_line {text rest : List Char} {ending : LineBreak}
    (plain : ∀ c ∈ text, isLineTerminator c = false)
    (alone : ending = .carriageReturn → rest.head? ≠ some '\n') (offset : Nat) :
    lineBreaks offset (text ++ (ending.chars ++ rest)) =
      (offset + Utf8.length (text ++ ending.chars)) ::
        lineBreaks (offset + Utf8.length (text ++ ending.chars)) rest := by
  rw [(Unbroken.of_plain plain).lineBreaks_append, ending.lineBreaks_append alone,
    Utf8.length_append, Nat.add_assoc]

theorem length_lineBreaks (cut : CutsInto cs lines last) (offset : Nat) :
    (lineBreaks offset cs).length = lines.length := by
  induction cut generalizing offset with
  | @last text plain =>
      have whole : lineBreaks offset (text ++ []) = _ :=
        (Unbroken.of_plain plain).lineBreaks_append offset
      rw [List.append_nil] at whole
      rw [whole]
      rfl
  | line plain alone cut ih =>
      rw [lineBreaks_line plain alone, List.length_cons, List.length_cons, ih]

/-- **The index lists where the lines begin.** -/
theorem getElem?_starts (cut : CutsInto cs lines last) (offset : Nat) {index : Nat}
    (within : index ≤ lines.length) :
    (offset :: lineBreaks offset cs)[index]? =
      some (offset + Utf8.length (joined (lines.take index))) := by
  induction cut generalizing offset index with
  | last plain =>
      rw [Nat.le_zero.1 within]
      rfl
  | line plain alone cut ih =>
      cases index with
      | zero => rfl
      | succ index =>
          rw [List.getElem?_cons_succ, lineBreaks_line plain alone,
            ih _ (Nat.le_of_succ_le_succ within), List.take_succ_cons, joined_cons,
            Utf8.length_append (_ ++ _) (joined _), Nat.add_assoc]

/-! ## The lines of a file -/

variable {file : SourceFile}

theorem lineCount (cut : CutsInto file.chars lines last) :
    file.lineCount = lines.length + 1 := by
  rw [SourceFile.lineCount, SourceFile.lineStarts, List.length_cons, cut.length_lineBreaks]

theorem lineStart (cut : CutsInto file.chars lines last) {index : Nat}
    (within : index ≤ lines.length) :
    file.lineStart (index + 1) = .ok (Utf8.length (joined (lines.take index))) := by
  rw [SourceFile.lineStart_succ_iff, SourceFile.lineStarts, cut.getElem?_starts 0 within,
    Nat.zero_add]

/-- A line with a break, between the lines before it and behind it. -/
theorem chars_eq (cut : CutsInto file.chars lines last) {index : Nat} {text : List Char}
    {ending : LineBreak} (found : lines[index]? = some (text, ending)) :
    joined (lines.take (index + 1)) = joined (lines.take index) ++ (text ++ ending.chars) ∧
      file.chars = joined (lines.take index) ++
        (text ++ ending.chars ++ (joined (lines.drop (index + 1)) ++ last)) := by
  obtain ⟨inRange, same⟩ := List.getElem?_eq_some_iff.1 found
  have taken : joined (lines.take (index + 1)) =
      joined (lines.take index) ++ (text ++ ending.chars) := by
    rw [List.take_succ_eq_append_getElem inRange, same, joined_append, joined_cons, joined_nil,
      List.append_nil]
  refine ⟨taken, ?_⟩
  calc file.chars
      = joined (lines.take (index + 1) ++ lines.drop (index + 1)) ++ last := by
        rw [List.take_append_drop]
        exact cut.eq_joined
    _ = _ := by
        rw [joined_append, taken]
        simp only [List.append_assoc]

/-- Of a line that has a break the break is cut off, and nothing else. -/
theorem lineText_broken (cut : CutsInto file.chars lines last) {index : Nat} {text : List Char}
    {ending : LineBreak} (found : lines[index]? = some (text, ending)) :
    file.lineText (index + 1) = .ok (String.ofList text) := by
  obtain ⟨inRange, same⟩ := List.getElem?_eq_some_iff.1 found
  obtain ⟨taken, whole⟩ := cut.chars_eq found
  have next : file.lineStarts[index + 1]? =
      some (Utf8.length (joined (lines.take index) ++ (text ++ ending.chars))) := by
    rw [← taken, ← SourceFile.lineStart_succ_iff]
    exact cut.lineStart inRange
  have slice := Utf8.slice_append (joined (lines.take index)) (text ++ ending.chars)
    (joined (lines.drop (index + 1)) ++ last)
  rw [← whole] at slice
  have trimmed := trimTerminators_append (cut.plain_line (List.mem_of_getElem? found))
    ending.isLineTerminator_of_mem
  unfold SourceFile.lineText
  simp only [cut.lineStart (Nat.le_of_lt inRange), next, Option.getD_some, SourceFile.textBetween,
    slice, bind, Except.bind, trimmed]
  rfl

/-- The last line has no break, and goes up to the end of the file. -/
theorem lineText_last (cut : CutsInto file.chars lines last) :
    file.lineText (lines.length + 1) = .ok (String.ofList last) := by
  have none : file.lineStarts[lines.length + 1]? = none := by
    rw [List.getElem?_eq_none_iff]
    exact Nat.le_of_eq cut.lineCount
  have slice := Utf8.slice_append (joined lines) last []
  rw [List.append_nil, ← cut.eq_joined] at slice
  have trimmed : trimTerminators (last ++ []) = last :=
    trimTerminators_append cut.plain_last (by simp)
  rw [List.append_nil] at trimmed
  unfold SourceFile.lineText
  simp only [cut.lineStart (Nat.le_refl _), List.take_length, none, Option.getD_none,
    SourceFile.size, SourceFile.textBetween, slice, bind, Except.bind, trimmed]
  rfl

end CutsInto

/-- The content of a file, line by line. Between the start of a line and the start of the
next one stand the text of the line and one break, and what follows a CR that is a break
does not begin with an LF. The last line is what stands behind its start. -/
structure SourceFile.HasLines (file : SourceFile) (lines : List (List Char × LineBreak))
    (last : List Char) : Prop where
  count : file.lineCount = lines.length + 1
  broken : ∀ index text ending, lines[index]? = some (text, ending) →
    ∃ start stop after, file.lineStart (index + 1) = .ok start ∧
      file.lineStart (index + 2) = .ok stop ∧
      file.lineText (index + 1) = .ok (String.ofList text) ∧
      Utf8.slice file.chars start stop = some (text ++ ending.chars) ∧
      Utf8.dropBytes file.chars stop = some after ∧
      (ending = .carriageReturn → after.head? ≠ some '\n')
  unbroken : ∃ start, file.lineStart file.lineCount = .ok start ∧
    file.lineText file.lineCount = .ok (String.ofList last) ∧
    Utf8.dropBytes file.chars start = some last
  chars_eq : file.chars = joined lines ++ last

theorem CutsInto.hasLines {file : SourceFile} {lines : List (List Char × LineBreak)}
    {last : List Char} (cut : CutsInto file.chars lines last) : file.HasLines lines last where
  count := cut.lineCount
  broken := by
    intro index text ending found
    obtain ⟨inRange, same⟩ := List.getElem?_eq_some_iff.1 found
    obtain ⟨taken, whole⟩ := cut.chars_eq found
    refine ⟨_, _, joined (lines.drop (index + 1)) ++ last, cut.lineStart (Nat.le_of_lt inRange),
      cut.lineStart inRange, cut.lineText_broken found, ?_, ?_, ?_⟩
    · rw [taken, whole]
      exact Utf8.slice_append _ _ _
    · rw [taken, whole, ← List.append_assoc]
      exact Utf8.dropBytes_append _ _
    · rintro rfl
      have split : lines =
          lines.take index ++ (text, .carriageReturn) :: lines.drop (index + 1) := by
        rw [← same, ← List.drop_eq_getElem_cons inRange, List.take_append_drop]
      exact cut.head?_ne_feed split
  unbroken := by
    have start := cut.lineStart (Nat.le_refl lines.length)
    rw [List.take_length] at start
    rw [cut.lineCount]
    refine ⟨_, start, cut.lineText_last, ?_⟩
    rw [cut.eq_joined]
    exact Utf8.dropBytes_append _ _
  chars_eq := cut.eq_joined

namespace SourceFile

variable {file : SourceFile}

/-- A file has the lines from one to their number, and every other number is refused. -/
theorem line_cases (file : SourceFile) (line : Nat) :
    ((1 ≤ line ∧ line ≤ file.lineCount) ∧
      (∃ start, file.lineStart line = .ok start) ∧ ∃ text, file.lineText line = .ok text) ∨
    ((line = 0 ∨ file.lineCount < line) ∧
      file.lineStart line = .error (.invalidLineNumber line file.lineCount) ∧
      file.lineText line = .error (.invalidLineNumber line file.lineCount)) := by
  have refused (answer : file.lineStart line = .error (.invalidLineNumber line file.lineCount)) :
      file.lineText line = .error (.invalidLineNumber line file.lineCount) := by
    unfold lineText
    rw [answer]
    rfl
  cases line with
  | zero => exact .inr ⟨.inl rfl, rfl, refused rfl⟩
  | succ index =>
      rcases Nat.lt_or_ge index file.lineStarts.length with within | beyond
      · have found := List.getElem?_eq_getElem within
        exact .inl ⟨⟨Nat.succ_pos index, within⟩, ⟨_, lineStart_succ_iff.2 found⟩,
          exists_lineText (Nat.succ_pos index) within⟩
      · have answer : file.lineStart (index + 1) =
            .error (.invalidLineNumber (index + 1) file.lineCount) := by
          simp only [lineStart, List.getElem?_eq_none_iff.2 beyond]
        exact .inr ⟨.inr (Nat.lt_succ_of_le beyond), answer, refused answer⟩

theorem lineStart_eq_error_iff {line : Nat} {cause : LocateError} :
    file.lineStart line = .error cause ↔
      (line = 0 ∨ file.lineCount < line) ∧ cause = .invalidLineNumber line file.lineCount := by
  rcases file.line_cases line with ⟨within, ⟨start, answer⟩, -⟩ | ⟨outside, answer, -⟩
  · simp only [answer, reduceCtorEq, false_iff, not_and]
    omega
  · simp [answer, outside, eq_comm]

theorem lineText_eq_error_iff {line : Nat} {cause : LocateError} :
    file.lineText line = .error cause ↔
      (line = 0 ∨ file.lineCount < line) ∧ cause = .invalidLineNumber line file.lineCount := by
  rcases file.line_cases line with ⟨within, -, text, answer⟩ | ⟨outside, -, answer⟩
  · simp only [answer, reduceCtorEq, false_iff, not_and]
    omega
  · simp [answer, outside, eq_comm]

/-- **Lines are numbered as they start.** -/
theorem lineStart_lt_iff {line later start stop : Nat} (known : file.lineStart line = .ok start)
    (knownLater : file.lineStart later = .ok stop) : start < stop ↔ line < later := by
  refine ⟨?_, lineStart_lt known knownLater⟩
  intro before
  apply Nat.lt_of_not_le
  intro order
  exact Nat.not_le.2 before (lineStart_le knownLater known order)

theorem isBoundary_of_lineStart {line start : Nat} (known : file.lineStart line = .ok start) :
    Utf8.isBoundary file.chars start = true := by
  cases line with
  | zero => cases known
  | succ index =>
      exact isBoundary_of_mem_lineStarts (List.mem_of_getElem? (lineStart_succ_iff.1 known))

/-- No line text holds a terminator. -/
theorem plain_of_lineText {line : Nat} {text : String} (known : file.lineText line = .ok text) :
    ∀ c ∈ text.toList, isLineTerminator c = false := by
  obtain ⟨lines, last, cut⟩ := exists_cutsInto file.chars
  rcases file.line_cases line with ⟨⟨positive, within⟩, -⟩ | ⟨-, -, answer⟩
  · obtain ⟨index, rfl⟩ := Nat.exists_eq_add_of_le' positive
    rw [cut.lineCount] at within
    rcases Nat.eq_or_lt_of_le (Nat.le_of_succ_le_succ within) with rfl | early
    · rw [cut.lineText_last] at known
      cases known
      simpa using cut.plain_last
    · have found := List.getElem?_eq_getElem early
      rw [cut.lineText_broken found] at known
      cases known
      simpa using cut.plain_line (List.mem_of_getElem? found)
  · rw [answer] at known
    cases known

/-- **Lines partition the content.** The first line starts at the first byte, and lines
are numbered in the order of their starts, none of which is inside a character. The
content is the lines, each with the one break that ends it, and then the last line, and
no text of a line holds a terminator. A number is refused by both lookups if it
is zero or greater than the number of lines, and otherwise by none. -/
theorem lines_partition_content (file : SourceFile) :
    file.lineStart 1 = .ok 0 ∧
    (∀ line later start stop, file.lineStart line = .ok start → file.lineStart later = .ok stop →
      (start < stop ↔ line < later)) ∧
    (∀ line start, file.lineStart line = .ok start →
      start ≤ file.content.utf8ByteSize ∧ ¬ Utf8.InsideChar file.chars start) ∧
    (∃ lines last, file.HasLines lines last) ∧
    (∀ line text, file.lineText line = .ok text →
      ∀ c ∈ text.toList, isLineTerminator c = false) ∧
    (∀ line cause,
      (file.lineStart line = .error cause ↔
        (line = 0 ∨ file.lineCount < line) ∧ cause = .invalidLineNumber line file.lineCount) ∧
      (file.lineText line = .error cause ↔
        (line = 0 ∨ file.lineCount < line) ∧ cause = .invalidLineNumber line file.lineCount)) := by
  refine ⟨rfl, ?_, ?_, ?_, ?_, fun line cause => ⟨lineStart_eq_error_iff, lineText_eq_error_iff⟩⟩
  · intro line later start stop known knownLater
    exact lineStart_lt_iff known knownLater
  · intro line start known
    have boundary := isBoundary_of_lineStart known
    refine ⟨?_, Utf8.not_insideChar_of_isBoundary boundary⟩
    rw [← Utf8.length_toList]
    exact Utf8.le_length_of_isBoundary boundary
  · obtain ⟨lines, last, cut⟩ := exists_cutsInto file.chars
    exact ⟨lines, last, cut.hasLines⟩
  · intro line text known
    exact plain_of_lineText known

/-- Terminators side by side: of `CR CR LF LF CR` the first CR is alone, the second is half
of a pair, and the LF behind it ends an empty line of its own. -/
theorem lines_partition_content_breaks :
    (SourceFile.mk "a.js" "\r\r\n\n\rx\u2028").lineCount = 6 ∧
      (SourceFile.mk "a.js" "\r\r\n\n\rx\u2028").lineStart 3 = .ok 3 ∧
      (SourceFile.mk "a.js" "\r\r\n\n\rx\u2028").lineText 5 = .ok "x" ∧
      (∃ lines last, (SourceFile.mk "a.js" "\r\r\n\n\rx\u2028").HasLines lines last ∧
        lines.length = 5) ∧
      (SourceFile.mk "a.js" "\r\r\n\n\rx\u2028").lineText 7 =
        .error (.invalidLineNumber 7 6) := by
  obtain ⟨-, -, -, ⟨lines, last, hasLines⟩, -, refused⟩ :=
    lines_partition_content ⟨"a.js", "\r\r\n\n\rx\u2028"⟩
  refine ⟨rfl, rfl, rfl, ⟨lines, last, hasLines, ?_⟩, (refused 7 _).2.2 ⟨.inr (by decide), rfl⟩⟩
  exact Nat.succ.inj hasLines.count.symm

end SourceFile

end GoalLexer
