import GoalLexer.Token.Error
import GoalLexer.Token.Kind

/-!
# Pieces

A piece is what one production of the lexical grammar takes from the front of
the unread text: the characters, and the kind of token they make or the reason
why they make none. Productions are functions from the unread text to a piece;
none of them knows where in the source it is.
-/

set_option autoImplicit false

namespace GoalLexer

structure Piece where
  lexeme : List Char
  outcome : Except LexError TokenKind

namespace Piece

/-- The first character alone if it satisfies `p`, and nothing otherwise. -/
def oneIf (p : Char → Bool) : List Char → List Char
  | [] => []
  | c :: _ => if p c then [c] else []

end Piece

end GoalLexer
