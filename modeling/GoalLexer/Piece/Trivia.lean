import GoalLexer.Piece.Basic
import GoalLexer.Text.CharClass

/-!
# White space, line terminators and comments
-/

set_option autoImplicit false

namespace GoalLexer.Piece

/-- The longest run of white space. -/
def whiteSpace (cs : List Char) : Piece :=
  ⟨cs.takeWhile isWhiteSpace, .ok .whiteSpace⟩

/-- One line terminator; the two characters of CR LF are two tokens. -/
def lineTerminator (cs : List Char) : Piece :=
  ⟨cs.take 1, .ok .lineTerminator⟩

/-- A comment up to the end of its line, which stays unread. -/
def singleLineComment (cs : List Char) : Piece :=
  ⟨cs.takeWhile (!isLineTerminator ·), .ok .singleLineComment⟩

/-- What follows the opening of a comment, through the first closing. -/
def commentBody : List Char → Option (List Char)
  | [] => none
  | c :: cs =>
      if c == '*' && cs.head? == some '/' then some ['*', '/']
      else (commentBody cs).map (c :: ·)

/-- A comment through its closing. Comments do not nest, and one that is not
closed takes all the rest. -/
def multiLineComment (cs : List Char) : Piece :=
  match commentBody (cs.drop 2) with
  | some body => ⟨cs.take 2 ++ body, .ok .multiLineComment⟩
  | none => ⟨cs, .error .unterminatedComment⟩

end GoalLexer.Piece
