import GoalLexer.Text.CharClass
import GoalLexer.Text.Utf8

/-!
# Source files

A named text with its lines. A line ends after LF, CR, CR LF, U+2028 or U+2029,
where CR LF is one break. `lineStarts` lists the byte offset of every line,
`lineText` is the text of a line without its break, and `lineCol` finds the line
and column of a byte offset.

The index is computed from the text alone, without the running count that a
cursor keeps.
-/

set_option autoImplicit false

namespace GoalLexer

/-- Why a lookup in a source file has no answer. -/
inductive LocateError where
  | offsetOutOfBounds (offset size : Nat)
  | notCharBoundary (offset : Nat)
  | invalidLineNumber (line lineCount : Nat)
  deriving DecidableEq, Repr

def LocateError.message : LocateError → String
  | offsetOutOfBounds offset size =>
      "Offset out of bounds: offset " ++ toString offset ++ ", source has " ++ toString size ++
        " bytes"
  | notCharBoundary offset =>
      "Offset " ++ toString offset ++ " is not on a character boundary"
  | invalidLineNumber line lineCount =>
      "Invalid line number: " ++ toString line ++ " (file has " ++ toString lineCount ++ " lines)"

/-- The byte offsets right after each line break of a text that starts at byte
`offset`. -/
def lineBreaks : (offset : Nat) → List Char → List Nat
  | _, [] => []
  | offset, '\r' :: '\n' :: cs => (offset + 2) :: lineBreaks (offset + 2) cs
  | offset, c :: cs =>
      if isLineTerminator c then (offset + c.utf8Size) :: lineBreaks (offset + c.utf8Size) cs
      else lineBreaks (offset + c.utf8Size) cs

/-- A text without the line terminators at its end. -/
def trimTerminators (cs : List Char) : List Char :=
  (cs.reverse.dropWhile isLineTerminator).reverse

structure SourceFile where
  name : String
  content : String
  deriving DecidableEq, Repr

namespace SourceFile

def chars (file : SourceFile) : List Char := file.content.toList

/-- The number of bytes. -/
def size (file : SourceFile) : Nat := Utf8.length file.chars

def lineStarts (file : SourceFile) : List Nat := 0 :: lineBreaks 0 file.chars

def lineCount (file : SourceFile) : Nat := file.lineStarts.length

/-- The byte offset at which a line starts. Lines count from one. -/
def lineStart (file : SourceFile) (line : Nat) : Except LocateError Nat :=
  match line with
  | 0 => .error (.invalidLineNumber 0 file.lineCount)
  | index + 1 =>
      match file.lineStarts[index]? with
      | some start => .ok start
      | none => .error (.invalidLineNumber (index + 1) file.lineCount)

/-- The text between two offsets, where both lie between characters. -/
def textBetween (file : SourceFile) (start stop : Nat) : Except LocateError (List Char) :=
  match Utf8.slice file.chars start stop with
  | some text => .ok text
  | none => .error (.notCharBoundary start)

/-- A line without its break. -/
def lineText (file : SourceFile) (line : Nat) : Except LocateError String := do
  let start ← file.lineStart line
  let stop := (file.lineStarts[line]?).getD file.size
  let text ← file.textBetween start stop
  return String.ofList (trimTerminators text)

/-- The line and column of a byte offset; the end of the text has them too. -/
def lineCol (file : SourceFile) (offset : Nat) : Except LocateError (Nat × Nat) :=
  if file.size < offset then .error (.offsetOutOfBounds offset file.size)
  else if !Utf8.isBoundary file.chars offset then .error (.notCharBoundary offset)
  else do
    let passed := (lineBreaks 0 file.chars).takeWhile (· ≤ offset)
    let text ← file.textBetween (passed.getLastD 0) offset
    return (passed.length + 1, text.length)

end SourceFile

end GoalLexer
