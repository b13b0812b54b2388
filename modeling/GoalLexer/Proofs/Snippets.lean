import GoalLexer.Diagnostic.Snippet
import GoalLexer.Proofs.LineIndex

/-!
# What a snippet underlines

A span that starts at a place and covers a beginning of the unread text there has
a snippet, `Snippet.ofSpan_eq`: the line of the place, from its column on. What
is underlined is the text of the span up to its first line terminator,
`Snippet.underlined_covering`.
-/

set_option autoImplicit false

namespace GoalLexer

namespace Snippet

/-- The characters of the line above the carets. -/
def underlined (s : Snippet) : List Char :=
  (s.line.toList.drop s.startColumn).take (s.endColumn - s.startColumn)

/-- The snippet for `size` characters from a place on, where `here` stands before the
place on its line. -/
def covering (here : List Char) (p : Place) (size : Nat) : Snippet :=
  columns (String.ofList (here ++ firstLine p.rest)) p.line p.column
    (min (p.column + size) (here ++ firstLine p.rest).length) none

variable {file : SourceFile} {passed : List Nat} {before here : List Char} {p : Place}

theorem width_eq (on : p.OnLine file.chars passed before here) {span : Span}
    (starts : span.start = p.offset) {text : List Char} (isPrefix : text <+: p.rest)
    (stops : span.stop = p.offset + Utf8.length text) : width file span = text.length := by
  obtain ⟨rest, split⟩ := isPrefix
  have cut := Utf8.slice_append (before ++ here) text rest
  rw [split, List.append_assoc, ← on.text_eq, Utf8.length_append _ text,
    ← on.offset] at cut
  rw [width, starts, stops, cut]

/-- **The snippet of a span** that starts at a place and covers a beginning of the
unread text. -/
theorem ofSpan_eq (on : p.OnLine file.chars passed before here)
    (plain : ∀ c ∈ here, isLineTerminator c = false) {span : Span}
    (starts : span.start = p.offset) {text : List Char} (isPrefix : text <+: p.rest)
    (stops : span.stop = p.offset + Utf8.length text) :
    ofSpan file span = .ok (covering here p text.length) := by
  unfold ofSpan
  simp only [starts, on.lineCol, on.lineText plain, width_eq on starts isPrefix stops, bind,
    Except.bind, String.toList_ofList]
  rfl

/-- **What is underlined** is the text up to its first line terminator. -/
theorem underlined_covering (column : p.column = here.length) {text : List Char}
    (isPrefix : text <+: p.rest) : (covering here p text.length).underlined = firstLine text := by
  have sameText : text = p.rest.take text.length := List.prefix_iff_eq_take.1 isPrefix
  have dropped : (here ++ firstLine p.rest).drop p.column = firstLine p.rest := by
    rw [column, List.drop_left]
  have width : max (min (p.column + text.length) (here ++ firstLine p.rest).length) p.column -
      p.column = min text.length (firstLine p.rest).length := by
    rw [List.length_append, column]
    omega
  calc (covering here p text.length).underlined
      = (firstLine p.rest).take (min text.length (firstLine p.rest).length) := by
        simp only [underlined, covering, columns, String.toList_ofList, dropped, width]
    _ = (firstLine p.rest).take text.length := by
        exact List.take_eq_take_min.symm
    _ = firstLine text := by
        rw [firstLine, List.take_takeWhile, ← sameText]
        rfl

end Snippet

end GoalLexer
