import GoalLexer.Source.File
import GoalLexer.Source.Span

/-!
# Snippets

One line of a source with some of its columns underlined. `Snippet.ofSpan` takes
the line on which a span starts; a span that runs on past that line is
underlined up to the end of the line. `Snippet.format` writes two rows behind a
common gutter, so that the carets stand under the columns they mean.
-/

set_option autoImplicit false

namespace GoalLexer

/-- A line and its underlined columns, from `startColumn` up to `endColumn`. -/
structure Snippet where
  line : String
  lineNumber : Nat
  startColumn : Nat
  endColumn : Nat
  label : Option String
  start_le_end : startColumn ≤ endColumn

namespace Snippet

instance : DecidableEq Snippet := fun s t =>
  decidable_of_iff
    (s.line = t.line ∧ s.lineNumber = t.lineNumber ∧ s.startColumn = t.startColumn ∧
      s.endColumn = t.endColumn ∧ s.label = t.label)
    (by cases s; cases t; simp)

/-- A snippet whose end is at least its start. -/
def columns (line : String) (lineNumber startColumn endColumn : Nat) (label : Option String) :
    Snippet :=
  ⟨line, lineNumber, startColumn, max endColumn startColumn, label, Nat.le_max_right _ _⟩

/-- A snippet that points at one column. -/
def point (line : String) (lineNumber column : Nat) : Snippet :=
  columns line lineNumber column column none

def withLabel (s : Snippet) (label : String) : Snippet :=
  { s with label := some label }

/-- The number of characters of a span; none where its end is no place between
two characters of the text. -/
def width (file : SourceFile) (span : Span) : Nat :=
  match Utf8.slice file.chars span.start span.stop with
  | some text => text.length
  | none => 0

/-- The line on which a span starts, underlined below the span. -/
def ofSpan (file : SourceFile) (span : Span) : Except LocateError Snippet := do
  let (lineNumber, startColumn) ← file.lineCol span.start
  let line ← file.lineText lineNumber
  let stop := min (startColumn + width file span) line.toList.length
  return columns line lineNumber startColumn stop none

/-- The width of the line number, at least three. -/
def gutter (s : Snippet) : Nat := max (Nat.toDigits 10 s.lineNumber).length 3

/-- The row of the line itself. -/
def sourceRow (s : Snippet) : List Char :=
  (Nat.toDigits 10 s.lineNumber).leftpad s.gutter ' ' ++ [' ', '|', ' '] ++ s.line.toList

/-- The row below it, with at least one caret. -/
def caretRow (s : Snippet) : List Char :=
  List.replicate s.gutter ' ' ++ [' ', '|', ' '] ++ List.replicate s.startColumn ' ' ++
    List.replicate (max (s.endColumn - s.startColumn) 1) '^' ++
    (match s.label with
    | some label => ' ' :: label.toList
    | none => [])

def format (s : Snippet) : String :=
  String.ofList (s.sourceRow ++ '\n' :: s.caretRow)

end Snippet

end GoalLexer
