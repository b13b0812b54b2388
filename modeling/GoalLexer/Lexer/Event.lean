import GoalLexer.Goal
import GoalLexer.Token.Error
import GoalLexer.Token.Kind

/-!
# Trace events

What a lexer tells about its work, in order: that it was created, every token it
scanned, every lexical error right before its token, and every look-ahead it
gave up. Skipped trivia leave no trace, nor does a token handed out that had been
looked at before.
-/

set_option autoImplicit false

namespace GoalLexer

inductive Event where
  | created (source : String) (size : Nat) (strict captureTrivia : Bool)
  | lexicalError (source : String) (line column : Nat) (error : LexError)
  | token (kind : TokenKind) (offset : Nat) (goal : Goal)
  | discarded (goal : Goal)
  deriving DecidableEq, Repr

namespace Event

def level : Event → String
  | created .. | lexicalError .. => "DEBUG"
  | token .. | discarded .. => "TRACE"

def message : Event → String
  | created .. => "creating lexer"
  | lexicalError .. => "lexical error"
  | token .. => "token"
  | discarded .. => "discarding peeked token"

end Event

end GoalLexer
