import GoalLexer.Proofs.Places
import GoalLexer.Source.File

/-!
# The line index and the running count

A source file finds lines and columns from an index of its line breaks, while a
cursor counts them as it reads. The two rest on one rule, `Place.endsLine`: the
index is the list of the offsets behind the characters that end a line
(`lineBreaks_cons`).

`Place.OnLine` says how a place stands among the lines of its text, and reading a
character keeps it (`OnLine.step`), so every place of a text is on a line
(`Place.IsIn.onLine`). From there

* `OnLine.lineCol`: the index gives the line and column that the place counts;
* `OnLine.lineText`: the line is what stands before the place on it, and the
  unread text up to the next line terminator.
-/

set_option autoImplicit false

namespace GoalLexer

/-! ## Line breaks, a character at a time -/

theorem endsLine_eq_false_iff {c : Char} {rest : List Char} :
    Place.endsLine c rest = false ↔
      isLineTerminator c = false ∨ (c = '\r' ∧ rest.head? = some '\n') := by
  unfold Place.endsLine
  cases isLineTerminator c with
  | false => simp
  | true => simp

/-- The pair CR LF is one break, behind the LF. -/
theorem lineBreaks_cons (offset : Nat) (c : Char) (cs : List Char) :
    lineBreaks offset (c :: cs) =
      (if Place.endsLine c cs then [offset + c.utf8Size] else []) ++
        lineBreaks (offset + c.utf8Size) cs := by
  by_cases pair : c = '\r' ∧ cs.head? = some '\n'
  · obtain ⟨rfl, feed⟩ := pair
    obtain ⟨cs, rfl⟩ := List.head?_eq_some_iff.1 feed
    have pairEnds : Place.endsLine '\r' ('\n' :: cs) = false := by
      rw [endsLine_eq_false_iff]
      exact Or.inr ⟨rfl, rfl⟩
    have feedEnds : isLineTerminator '\n' = true := by decide
    have sizes : ('\r').utf8Size = 1 ∧ ('\n').utf8Size = 1 := by decide
    simp [lineBreaks, pairEnds, feedEnds, sizes.1, sizes.2]
  · have alone : Place.endsLine c cs = isLineTerminator c := by
      cases terminates : isLineTerminator c with
      | false => exact endsLine_eq_false_iff.2 (Or.inl terminates)
      | true =>
          rw [← Bool.not_eq_false, endsLine_eq_false_iff, terminates]
          simpa using pair
    rw [alone, lineBreaks]
    · split <;> rfl
    · intro cs' isReturn isPair
      exact pair ⟨isReturn, by rw [isPair]; rfl⟩

theorem lt_of_mem_lineBreaks {offset b : Nat} {cs : List Char} (listed : b ∈ lineBreaks offset cs) :
    offset < b := by
  induction cs generalizing offset with
  | nil => cases listed
  | cons c cs ih =>
      have pos := c.utf8Size_pos
      rw [lineBreaks_cons, List.mem_append] at listed
      rcases listed with here | later
      · split at here
        · have same := List.mem_singleton.1 here
          omega
        · cases here
      · have behind := ih later
        omega

/-- What ends a line: LF, CR, CR LF, U+2028 or U+2029. -/
inductive LineBreak where
  | lineFeed
  | carriageReturn
  | pair
  | lineSeparator
  | paragraphSeparator
  deriving DecidableEq, Repr

namespace LineBreak

def chars : LineBreak → List Char
  | lineFeed => ['\n']
  | carriageReturn => ['\r']
  | pair => ['\r', '\n']
  | lineSeparator => ['\u2028']
  | paragraphSeparator => ['\u2029']

theorem chars_length_pos (ending : LineBreak) : 0 < ending.chars.length := by
  cases ending <;> exact Nat.succ_pos _

theorem isLineTerminator_of_mem (ending : LineBreak) :
    ∀ c ∈ ending.chars, isLineTerminator c = true := by
  cases ending <;> simp [chars, isLineTerminator]

/-- The next line starts behind the break. A CR is one if no LF follows. -/
theorem lineBreaks_append (ending : LineBreak) {rest : List Char}
    (alone : ending = .carriageReturn → rest.head? ≠ some '\n') (offset : Nat) :
    lineBreaks offset (ending.chars ++ rest) =
      (offset + Utf8.length ending.chars) ::
        lineBreaks (offset + Utf8.length ending.chars) rest := by
  cases ending with
  | lineFeed => exact lineBreaks_cons offset '\n' rest
  | carriageReturn =>
      have ends : Place.endsLine '\r' rest = true := by
        rw [← Bool.not_eq_false, endsLine_eq_false_iff]
        rintro (plain | ⟨-, feed⟩)
        · cases plain
        · exact alone rfl feed
      exact (lineBreaks_cons offset '\r' rest).trans (by rw [ends]; rfl)
  | pair => rfl
  | lineSeparator => exact lineBreaks_cons offset '\u2028' rest
  | paragraphSeparator => exact lineBreaks_cons offset '\u2029' rest

end LineBreak

/-- A line terminator begins a break. -/
theorem exists_lineBreak {c : Char} (cs : List Char) (terminates : isLineTerminator c = true) :
    ∃ (ending : LineBreak) (rest : List Char), c :: cs = ending.chars ++ rest ∧
      (ending = .carriageReturn → rest.head? ≠ some '\n') := by
  simp only [isLineTerminator, Bool.or_eq_true, beq_iff_eq, or_assoc] at terminates
  rcases terminates with rfl | rfl | rfl | rfl
  · exact ⟨.lineFeed, cs, rfl, by simp⟩
  · by_cases feed : cs.head? = some '\n'
    · obtain ⟨rest, rfl⟩ := List.head?_eq_some_iff.1 feed
      exact ⟨.pair, rest, rfl, by simp⟩
    · exact ⟨.carriageReturn, cs, rfl, fun _ => feed⟩
  · exact ⟨.lineSeparator, cs, rfl, by simp⟩
  · exact ⟨.paragraphSeparator, cs, rfl, by simp⟩

/-- No character of `cs` ends a line where `rest` follows. -/
def Unbroken : (cs rest : List Char) → Prop
  | [], _ => True
  | c :: cs, rest => Place.endsLine c (cs ++ rest) = false ∧ Unbroken cs rest

namespace Unbroken

variable {cs rest : List Char}

theorem lineBreaks_append (unbroken : Unbroken cs rest) (offset : Nat) :
    lineBreaks offset (cs ++ rest) = lineBreaks (offset + Utf8.length cs) rest := by
  induction cs generalizing offset with
  | nil => rfl
  | cons c cs ih =>
      obtain ⟨goesOn, later⟩ := unbroken
      rw [List.cons_append, lineBreaks_cons, goesOn, ih later, Utf8.length_cons, Nat.add_assoc]
      rfl

theorem concat_iff {c : Char} :
    Unbroken (cs ++ [c]) rest ↔ Unbroken cs (c :: rest) ∧ Place.endsLine c rest = false := by
  induction cs with
  | nil => exact and_comm
  | cons d cs ih =>
      simp only [Unbroken, List.cons_append, ih, List.append_assoc, List.nil_append, and_assoc]

theorem of_plain (plain : ∀ c ∈ cs, isLineTerminator c = false) : Unbroken cs rest := by
  induction cs with
  | nil => trivial
  | cons c cs ih =>
      refine ⟨?_, ih fun d listed => plain d (List.mem_cons_of_mem c listed)⟩
      rw [endsLine_eq_false_iff]
      exact Or.inl (plain c List.mem_cons_self)

/-- Text without a line end holds no terminator, but for a CR before an LF. -/
theorem plain (unbroken : Unbroken cs rest) (noFeed : rest.head? ≠ some '\n') :
    ∀ c ∈ cs, isLineTerminator c = false := by
  induction cs with
  | nil =>
      intro c listed
      cases listed
  | cons c cs ih =>
      obtain ⟨goesOn, later⟩ := unbroken
      intro d listed
      rcases List.mem_cons.1 listed with rfl | behind
      · rcases endsLine_eq_false_iff.1 goesOn with plain | ⟨-, feed⟩
        · exact plain
        · -- the LF would have to be the next character, and an LF always ends a line
          cases cs with
          | nil => exact absurd feed noFeed
          | cons e cs =>
              have isFeed : e = '\n' := Option.some.inj feed
              rcases endsLine_eq_false_iff.1 later.1 with plain | ⟨isReturn, -⟩
              · rw [isFeed] at plain
                cases plain
              · rw [isFeed] at isReturn
                cases isReturn
      · exact ih later d behind

end Unbroken

/-! ## Places on lines -/

namespace Place

/-- A place on a line of a text: `passed` are the breaks before it, `before` is the
text before its line, and `here` the text of its line before it. -/
structure OnLine (text : List Char) (passed : List Nat) (before here : List Char)
    (p : Place) : Prop where
  text_eq : text = before ++ (here ++ p.rest)
  breaks : lineBreaks 0 text = passed ++ lineBreaks p.offset p.rest
  lineStart : passed.getLastD 0 = Utf8.length before
  offset : p.offset = Utf8.length (before ++ here)
  line : p.line = passed.length + 1
  column : p.column = here.length
  passed_le : ∀ b ∈ passed, b ≤ p.offset
  unbroken : Unbroken here p.rest

theorem onLine_start (text : List Char) : OnLine text [] [] [] (start text) where
  text_eq := rfl
  breaks := rfl
  lineStart := rfl
  offset := rfl
  line := rfl
  column := rfl
  passed_le := by
    intro b listed
    cases listed
  unbroken := trivial

namespace OnLine

variable {text : List Char} {passed : List Nat} {before here : List Char} {p : Place}

/-- **One character** ends the line or goes on with it. -/
theorem step (on : OnLine text passed before here p) :
    ∃ passed before here, OnLine text passed before here p.step := by
  cases unread : p.rest with
  | nil =>
      rw [step_of_nil unread]
      exact ⟨passed, before, here, on⟩
  | cons c rest =>
      have breaks := on.breaks
      have unbroken := on.unbroken
      have moved : p.step.rest = rest := by simp [unread]
      have passedBy : p.step.offset = p.offset + c.utf8Size := by simp [unread]
      have size : p.step.offset = Utf8.length (before ++ here ++ [c]) := by
        rw [passedBy, Utf8.length_append, ← on.offset]
        rfl
      rw [unread, lineBreaks_cons] at breaks
      rw [unread] at unbroken
      cases ends : endsLine c rest with
      | true =>
          rw [ends, if_pos rfl] at breaks
          refine ⟨passed ++ [p.step.offset], before ++ here ++ [c], [], ?_, ?_, ?_, ?_, ?_, ?_, ?_,
            trivial⟩
          · rw [on.text_eq, unread, moved]
            simp
          · rw [breaks, passedBy, moved]
            simp
          · rw [List.getLastD_concat, size]
          · rw [size, List.append_nil]
          · simp [Place.step, unread, ends, on.line]
          · simp [Place.step, unread, ends]
          · intro b listed
            rcases List.mem_append.1 listed with old | new
            · have bound := on.passed_le b old
              omega
            · exact Nat.le_of_eq (List.mem_singleton.1 new)
      | false =>
          rw [ends] at breaks
          refine ⟨passed, before, here ++ [c], ?_, ?_, on.lineStart, ?_, ?_, ?_, ?_, ?_⟩
          · rw [on.text_eq, unread, moved]
            simp
          · rw [breaks, passedBy, moved]
            rfl
          · rw [size, List.append_assoc]
          · simp [Place.step, unread, ends, on.line]
          · simp [Place.step, unread, ends, on.column]
          · intro b listed
            have bound := on.passed_le b listed
            omega
          · rw [moved]
            exact Unbroken.concat_iff.2 ⟨unbroken, ends⟩

end OnLine

/-- **Every place of a text is on a line** of it. -/
theorem IsIn.onLine {text : List Char} {p : Place} (inside : p.IsIn text) :
    ∃ passed before here, OnLine text passed before here p := by
  obtain ⟨n, rfl⟩ := inside
  induction n with
  | zero => exact ⟨[], [], [], onLine_start text⟩
  | succ n ih =>
      obtain ⟨passed, before, here, on⟩ := ih
      rw [skip_add]
      exact on.step

end Place

/-! ## Lookups in the index -/

/-- The part of a text on its first line. -/
def firstLine (cs : List Char) : List Char := cs.takeWhile (!isLineTerminator ·)

theorem plain_firstLine (cs : List Char) :
    ∀ c ∈ firstLine cs, isLineTerminator c = false := by
  intro c listed
  simpa using List.all_eq_true.1 List.all_takeWhile c listed

/-- A text is its first line, or goes on with a line terminator. -/
theorem exists_firstLine_append (cs : List Char) :
    ∃ tail, cs = firstLine cs ++ tail ∧ ∀ c, tail.head? = some c → isLineTerminator c = true := by
  refine ⟨cs.dropWhile (!isLineTerminator ·), List.takeWhile_append_dropWhile.symm, ?_⟩
  intro c first
  have stops := List.head?_dropWhile_not (!isLineTerminator ·) cs
  rw [first] at stops
  simpa using stops

/-- Terminators at the end are cut off, and nothing else if none stand before. -/
theorem trimTerminators_append {cs mark : List Char} (plain : ∀ c ∈ cs, isLineTerminator c = false)
    (terminators : ∀ c ∈ mark, isLineTerminator c = true) : trimTerminators (cs ++ mark) = cs := by
  have last : cs.reverse.dropWhile isLineTerminator = cs.reverse := by
    cases reversed : cs.reverse with
    | nil => rfl
    | cons c rest =>
        have listed : c ∈ cs := by
          rw [← List.mem_reverse, reversed]
          exact List.mem_cons_self
        rw [List.dropWhile_cons_of_neg]
        rw [plain c listed]
        exact Bool.false_ne_true
  unfold trimTerminators
  rw [List.reverse_append, List.dropWhile_append_of_pos, last, List.reverse_reverse]
  intro c listed
  exact terminators c (List.mem_reverse.1 listed)

namespace Place.OnLine

variable {file : SourceFile} {passed : List Nat} {before here : List Char} {p : Place}

theorem slice_here (on : OnLine file.chars passed before here p) :
    Utf8.slice file.chars (passed.getLastD 0) p.offset = some here := by
  have cut := Utf8.slice_append before here p.rest
  rwa [← on.text_eq, ← on.lineStart, ← on.offset] at cut

/-- The breaks up to an offset are those that the place has passed. -/
theorem takeWhile_lineBreaks (on : OnLine file.chars passed before here p) :
    (lineBreaks 0 file.chars).takeWhile (· ≤ p.offset) = passed := by
  have first : (lineBreaks p.offset p.rest).takeWhile (· ≤ p.offset) = [] := by
    cases later : lineBreaks p.offset p.rest with
    | nil => rfl
    | cons b breaks =>
        have behind : p.offset < b := by
          apply lt_of_mem_lineBreaks
          rw [later]
          exact List.mem_cons_self
        rw [List.takeWhile_cons_of_neg]
        simpa using behind
  rw [on.breaks, List.takeWhile_append_of_pos, first, List.append_nil]
  intro b listed
  simpa using on.passed_le b listed

/-- **The index and the running count agree.** -/
theorem lineCol (on : OnLine file.chars passed before here p) :
    file.lineCol p.offset = .ok (p.line, p.column) := by
  have within : ¬ file.size < p.offset := by
    rw [SourceFile.size, on.text_eq, on.offset, ← List.append_assoc, Utf8.length_append _ p.rest]
    omega
  have boundary : Utf8.isBoundary file.chars p.offset = true := by
    have cut := Utf8.dropBytes_append (before ++ here) p.rest
    rw [List.append_assoc, ← on.text_eq, ← on.offset] at cut
    rw [Utf8.isBoundary, cut]
    rfl
  unfold SourceFile.lineCol
  rw [if_neg within, boundary, on.takeWhile_lineBreaks]
  simp only [SourceFile.textBetween, on.slice_here, on.line, on.column]
  rfl

theorem lineStart_line (on : OnLine file.chars passed before here p) :
    file.lineStart p.line = .ok (Utf8.length before) := by
  have found : file.lineStarts[passed.length]? = some (Utf8.length before) := by
    rw [SourceFile.lineStarts, on.breaks, ← List.cons_append,
      List.getElem?_append_left (Nat.lt_succ_self _), ← on.lineStart,
      List.getLastD_eq_getLast?, ← List.getLast?_cons, List.getLast?_eq_getElem?]
    rfl
  rw [on.line]
  simp only [SourceFile.lineStart, found]

/-- The next line starts behind the first break that is not passed. -/
theorem lineStarts_line (on : OnLine file.chars passed before here p) :
    file.lineStarts[p.line]? = (lineBreaks p.offset p.rest).head? := by
  rw [on.line, SourceFile.lineStarts, on.breaks, List.getElem?_cons_succ,
    List.getElem?_append_right (Nat.le_refl _), Nat.sub_self, List.head?_eq_getElem?]

/-- The line goes from its start to its terminator, which ends the unread text or
stands in it. -/
theorem exists_slice_line (on : OnLine file.chars passed before here p) :
    ∃ mark, (∀ c ∈ mark, isLineTerminator c = true) ∧
      Utf8.slice file.chars (Utf8.length before) ((file.lineStarts[p.line]?).getD file.size) =
        some (here ++ firstLine p.rest ++ mark) := by
  obtain ⟨tail, split, first⟩ := exists_firstLine_append p.rest
  have plain := plain_firstLine p.rest
  generalize firstLine p.rest = run at plain split ⊢
  rw [on.lineStarts_line, split, (Unbroken.of_plain plain).lineBreaks_append]
  cases tail with
  | nil =>
      have cut := Utf8.slice_append before (here ++ run) []
      have whole : file.chars = before ++ (here ++ run) := by
        rw [on.text_eq, split, List.append_nil]
      refine ⟨[], by simp, ?_⟩
      rw [List.append_nil, ← whole] at cut
      simpa [lineBreaks, SourceFile.size] using cut
  | cons c tail =>
      have terminates := first c rfl
      obtain ⟨ending, rest, same, alone⟩ := exists_lineBreak tail terminates
      have cut := Utf8.slice_append before (here ++ run ++ ending.chars) rest
      have whole : file.chars = before ++ (here ++ run ++ ending.chars ++ rest) := by
        rw [on.text_eq, split, same]
        simp
      refine ⟨ending.chars, ending.isLineTerminator_of_mem, ?_⟩
      rw [← whole] at cut
      rw [same, ending.lineBreaks_append alone, List.head?_cons, Option.getD_some, on.offset]
      simpa [Nat.add_assoc] using cut

/-- **The line of a place**: the text before it on the line, and the unread text up to
the next line terminator. -/
theorem lineText (on : OnLine file.chars passed before here p)
    (plain : ∀ c ∈ here, isLineTerminator c = false) :
    file.lineText p.line =
      .ok (String.ofList (here ++ firstLine p.rest)) := by
  obtain ⟨mark, terminators, cut⟩ := on.exists_slice_line
  have plainLine : ∀ c ∈ here ++ firstLine p.rest, isLineTerminator c = false := by
    intro c listed
    rcases List.mem_append.1 listed with old | new
    · exact plain c old
    · exact plain_firstLine p.rest c new
  unfold SourceFile.lineText
  simp only [on.lineStart_line, SourceFile.textBetween, bind, Except.bind, cut,
    trimTerminators_append plainLine terminators]
  rfl

end Place.OnLine

end GoalLexer
