/-!
# Options

The three switches of a lexer, fixed for its lifetime.
-/

set_option autoImplicit false

namespace GoalLexer

structure Options where
  /-- Reserve the words of strict mode code too. -/
  strictMode : Bool := false
  /-- Return white space and comments as tokens instead of skipping them. -/
  captureTrivia : Bool := true
  /-- Take a minus sign right before a number as part of it. -/
  signedNumericLiterals : Bool := true
  deriving DecidableEq, Repr, Inhabited

end GoalLexer
