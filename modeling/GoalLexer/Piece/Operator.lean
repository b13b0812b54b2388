import GoalLexer.Piece.Basic

/-!
# Punctuators

The table of punctuators goes from long to short, so the first entry that the
text starts with is the longest one. A slash, a slash with an equals sign and the
closing brace are not in it: what they mean depends on the goal.
-/

set_option autoImplicit false

namespace GoalLexer

def punctuators : List String :=
  [">>>=",
    "<<=", "!==", "===", ">>>", "...", ">>=",
    ">=", "%=", "*=", "-=", "<=", "&=", "==", "!=", "|=", "^=", "+=", "<<", "||", "&&", "++",
    "--", "=>", ">>",
    "\x7b", "(", ")", ";", "]", "[", ",", ".", "-", "&", "|", "^", "!", "~", "%", "*", "?", ":",
    "=", "+", ">", "<"]

/-- The longest punctuator that the text starts with. -/
def punctuator? (cs : List Char) : Option String :=
  punctuators.find? (fun p => p.toList.isPrefixOf cs)

namespace Piece

def punctuator (text : String) : Piece :=
  ⟨text.toList, .ok .punctuator⟩

/-- A slash that divides, with the equals sign that follows it. -/
def divPunctuator (cs : List Char) : Piece :=
  ⟨cs.take 1 ++ oneIf (· == '=') (cs.drop 1), .ok .divPunctuator⟩

end Piece

end GoalLexer
