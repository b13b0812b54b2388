import GoalLexer.Proofs.Snippets

/-!
# Lookups that never miss

What the line index of a file is asked for is always there. An offset between two
characters is that of a place (`Place.exists_isIn_of_isBoundary`), and the line of a
place is found wherever a search of the index may end: at the entry that is the offset
(`Place.OnLine.line_of_hit`), or behind at least one entry, at the point where the
offset would have to be inserted (`Place.OnLine.line_of_insertsAt`). Every line has a
text (`SourceFile.exists_lineText`), and every span that starts between two characters
has a snippet (`Snippet.exists_ofSpan`).
-/

set_option autoImplicit false

namespace GoalLexer

/-- An offset that is not in a list would have to be inserted at `index` to keep the
list in order. -/
structure InsertsAt (starts : List Nat) (offset index : Nat) : Prop where
  index_le : index ≤ starts.length
  below : ∀ s ∈ starts.take index, s < offset
  above : ∀ s ∈ starts.drop index, offset < s

/-! ## Boundaries are places -/

namespace Utf8

/-- What a cut leaves is the end of the text. -/
theorem exists_of_dropBytes {cs rest : List Char} {n : Nat} (cut : dropBytes cs n = some rest) :
    ∃ pre, cs = pre ++ rest ∧ length pre = n := by
  induction cs generalizing n with
  | nil =>
      cases n with
      | zero =>
          cases cut
          exact ⟨[], rfl, rfl⟩
      | succ n => cases cut
  | cons c cs ih =>
      cases n with
      | zero =>
          cases cut
          exact ⟨[], rfl, rfl⟩
      | succ n =>
          rw [dropBytes] at cut
          split at cut
          · obtain ⟨pre, rfl, size⟩ := ih cut
            refine ⟨c :: pre, rfl, ?_⟩
            rw [length_cons]
            omega
          · cases cut

theorem isBoundary_length (pre post : List Char) :
    isBoundary (pre ++ post) (length pre) = true := by
  rw [isBoundary, dropBytes_append]
  rfl

end Utf8

namespace Place

variable {text : List Char}

theorem IsIn.isBoundary {p : Place} (inside : p.IsIn text) :
    Utf8.isBoundary text p.offset = true := by
  obtain ⟨read, rfl, size⟩ := inside.split
  rw [size]
  exact Utf8.isBoundary_length read p.rest

theorem exists_isIn_of_isBoundary {offset : Nat} (boundary : Utf8.isBoundary text offset = true) :
    ∃ p : Place, p.IsIn text ∧ p.offset = offset := by
  obtain ⟨rest, cut⟩ := Option.isSome_iff_exists.1 boundary
  obtain ⟨pre, rfl, size⟩ := Utf8.exists_of_dropBytes cut
  refine ⟨(start (pre ++ rest)).skip pre.length, ⟨pre.length, rfl⟩, ?_⟩
  rw [skip_offset, ← size]
  simp [start]

/-- Up to a later boundary the text behind a place is a beginning of what is unread. -/
theorem IsIn.exists_isPrefix {p : Place} {stop : Nat} (inside : p.IsIn text)
    (boundary : Utf8.isBoundary text stop = true) (ordered : p.offset ≤ stop) :
    ∃ covered, covered <+: p.rest ∧ stop = p.offset + Utf8.length covered ∧
      Utf8.slice text p.offset stop = some covered := by
  obtain ⟨read, rfl, size⟩ := inside.split
  obtain ⟨post, cut⟩ := Option.isSome_iff_exists.1 boundary
  obtain ⟨pre, same, rfl⟩ := Utf8.exists_of_dropBytes cut
  rw [size] at ordered ⊢
  obtain ⟨covered, rfl, split⟩ : ∃ covered, pre = read ++ covered ∧ p.rest = covered ++ post := by
    rcases List.append_eq_append_iff.1 same with ⟨covered, rfl, split⟩ | ⟨more, rfl, split⟩
    · exact ⟨covered, rfl, split⟩
    · -- the boundary is not before the place, so the two are one
      have bytes := Utf8.length_le more
      rw [Utf8.length_append] at ordered
      obtain rfl : more = [] := List.length_eq_zero_iff.1 (by omega)
      exact ⟨[], by simp, by simpa using split.symm⟩
  refine ⟨covered, ⟨post, split.symm⟩, Utf8.length_append _ _, ?_⟩
  rw [split]
  exact Utf8.slice_append read covered post

end Place

/-! ## The order of the line starts -/

theorem pairwise_lineBreaks (offset : Nat) (cs : List Char) :
    (lineBreaks offset cs).Pairwise (· < ·) := by
  induction cs generalizing offset with
  | nil => exact .nil
  | cons c cs ih =>
      rw [lineBreaks_cons]
      split
      · exact .cons (fun b listed => lt_of_mem_lineBreaks listed) (ih _)
      · exact ih _

theorem SourceFile.pairwise_lineStarts (file : SourceFile) :
    file.lineStarts.Pairwise (· < ·) :=
  .cons (fun _ listed => lt_of_mem_lineBreaks listed) (pairwise_lineBreaks 0 file.chars)

/-- A break stands between two characters. -/
theorem exists_of_mem_lineBreaks {offset b : Nat} {cs : List Char}
    (listed : b ∈ lineBreaks offset cs) :
    ∃ pre post, cs = pre ++ post ∧ b = offset + Utf8.length pre := by
  induction cs generalizing offset with
  | nil => cases listed
  | cons c cs ih =>
      rw [lineBreaks_cons, List.mem_append] at listed
      rcases listed with here | later
      · split at here
        · exact ⟨[c], cs, rfl, List.mem_singleton.1 here⟩
        · cases here
      · obtain ⟨pre, post, rfl, size⟩ := ih later
        exact ⟨c :: pre, post, rfl, by rw [size, Utf8.length_cons, Nat.add_assoc]⟩

theorem SourceFile.isBoundary_of_mem_lineStarts {file : SourceFile} {b : Nat}
    (listed : b ∈ file.lineStarts) : Utf8.isBoundary file.chars b = true := by
  rcases List.mem_cons.1 listed with rfl | later
  · exact Utf8.isBoundary_length [] file.chars
  · obtain ⟨pre, post, text, rfl⟩ := exists_of_mem_lineBreaks later
    rw [text, Nat.zero_add]
    exact Utf8.isBoundary_length pre post

/-! ## Searches -/

namespace Place.OnLine

variable {file : SourceFile} {passed : List Nat} {before here : List Char} {p : Place}

/-- Up to the line of a place lines start no later than it. -/
theorem le_of_lineStarts (on : OnLine file.chars passed before here p) {index start : Nat}
    (found : file.lineStarts[index]? = some start) (early : index < p.line) :
    start ≤ p.offset := by
  rw [on.line] at early
  rw [SourceFile.lineStarts, on.breaks, ← List.cons_append,
    List.getElem?_append_left (by simpa using early)] at found
  rcases List.mem_cons.1 (List.mem_of_getElem? found) with rfl | listed
  · exact Nat.zero_le _
  · exact on.passed_le start listed

/-- Behind the line of a place lines start behind it. -/
theorem lt_of_lineStarts (on : OnLine file.chars passed before here p) {index start : Nat}
    (found : file.lineStarts[index]? = some start) (late : p.line ≤ index) :
    p.offset < start := by
  rw [on.line] at late
  rw [SourceFile.lineStarts, on.breaks, ← List.cons_append,
    List.getElem?_append_right (by simpa using late)] at found
  exact lt_of_mem_lineBreaks (List.mem_of_getElem? found)

theorem line_le (on : OnLine file.chars passed before here p) :
    p.line ≤ file.lineStarts.length := by
  rw [on.line, SourceFile.lineStarts, on.breaks, List.length_cons, List.length_append]
  omega

/-- **An offset that is found** starts the line of the place. -/
theorem line_of_hit (on : OnLine file.chars passed before here p) {index : Nat}
    (found : file.lineStarts[index]? = some p.offset) : p.line = index + 1 := by
  have bound := on.line_le
  have early : index < p.line := by
    apply Nat.lt_of_not_le
    intro late
    exact Nat.lt_irrefl _ (on.lt_of_lineStarts found late)
  apply Nat.le_antisymm _ early
  apply Nat.le_of_not_lt
  intro sooner
  -- the next line would start behind the place, and yet no later
  have inRange : index + 1 < file.lineStarts.length := Nat.lt_of_lt_of_le sooner bound
  have noLater := on.le_of_lineStarts (List.getElem?_eq_getElem inRange) sooner
  obtain ⟨known, same⟩ := List.getElem?_eq_some_iff.1 found
  have behind := List.pairwise_iff_getElem.1 file.pairwise_lineStarts index (index + 1) known
    inRange (Nat.lt_succ_self index)
  omega

/-- **An offset that is not found** would be inserted behind the start of its line. -/
theorem line_of_insertsAt (on : OnLine file.chars passed before here p) {insert : Nat}
    (inserts : InsertsAt file.lineStarts p.offset insert) : p.line = insert := by
  apply Nat.le_antisymm
  · apply Nat.le_of_not_lt
    intro early
    have inRange := Nat.lt_of_lt_of_le early on.line_le
    have notBehind := on.le_of_lineStarts (List.getElem?_eq_getElem inRange) early
    have behind := inserts.above file.lineStarts[insert] (by
      rw [List.drop_eq_getElem_cons inRange]
      exact List.mem_cons_self)
    omega
  · apply Nat.le_of_not_lt
    intro late
    have inRange : p.line < file.lineStarts.length := Nat.lt_of_lt_of_le late inserts.index_le
    have notBefore := on.lt_of_lineStarts (List.getElem?_eq_getElem inRange) (Nat.le_refl _)
    have before := inserts.below file.lineStarts[p.line]
      (List.mem_take_iff_getElem.2 ⟨p.line, by omega, rfl⟩)
    omega

theorem exists_lineText (on : OnLine file.chars passed before here p) :
    ∃ text, file.lineText p.line = .ok text := by
  obtain ⟨mark, -, cut⟩ := on.exists_slice_line
  refine ⟨String.ofList (trimTerminators (here ++ firstLine p.rest ++ mark)), ?_⟩
  unfold SourceFile.lineText
  simp only [on.lineStart_line, SourceFile.textBetween, bind, Except.bind, cut]
  rfl

end Place.OnLine

/-- **Every line** can be cut out. -/
theorem SourceFile.exists_lineText {file : SourceFile} {line : Nat} (positive : 0 < line)
    (within : line ≤ file.lineCount) : ∃ text, file.lineText line = .ok text := by
  obtain ⟨index, rfl⟩ := Nat.exists_eq_succ_of_ne_zero (Nat.ne_of_gt positive)
  have found := List.getElem?_eq_getElem (Nat.lt_of_succ_le within)
  obtain ⟨p, inside, here⟩ := Place.exists_isIn_of_isBoundary
    (isBoundary_of_mem_lineStarts (List.mem_of_getElem? found))
  obtain ⟨passed, before, rest, on⟩ := inside.onLine
  rw [← here] at found
  rw [Nat.succ_eq_add_one, ← on.line_of_hit found]
  exact on.exists_lineText

/-- **Every span** that starts between two characters has a snippet. -/
theorem Snippet.exists_ofSpan {file : SourceFile} {span : Span}
    (boundary : Utf8.isBoundary file.chars span.start = true) :
    ∃ s, Snippet.ofSpan file span = .ok s := by
  obtain ⟨p, inside, here⟩ := Place.exists_isIn_of_isBoundary boundary
  obtain ⟨passed, before, rest, on⟩ := inside.onLine
  obtain ⟨text, found⟩ := on.exists_lineText
  have located := on.lineCol
  rw [here] at located
  unfold Snippet.ofSpan
  simp only [located, found, bind, Except.bind]
  exact ⟨_, rfl⟩

end GoalLexer
