import GoalLexer.Source.Span
import GoalLexer.Token.Error
import GoalLexer.Token.Kind

/-!
# Tokens

A token is a stretch of source text with its kind and the position of its first
byte. A token of kind `error` normally carries the cause.
-/

set_option autoImplicit false

namespace GoalLexer

structure Token where
  kind : TokenKind
  lexeme : String
  position : Position
  error : Option LexError := none
  deriving DecidableEq, Repr

namespace Token

/-- The token that reports an error. -/
def ofError (error : LexError) (lexeme : String) (position : Position) : Token :=
  ⟨.error, lexeme, position, some error⟩

def isEndOfInput (t : Token) : Bool := t.kind == .endOfInput

def isError (t : Token) : Bool := t.kind == .error

/-- The wording of the error carried, if any. -/
def message (t : Token) : Option String := t.error.map (·.message)

/-- The kind, and the lexeme or the wording of the error in quotes. -/
def describe (t : Token) : String :=
  "<" ++ t.kind.name ++ " " ++ Quoted.text (t.message.getD t.lexeme) ++ ">"

end Token

end GoalLexer
