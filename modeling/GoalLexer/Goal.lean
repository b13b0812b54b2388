/-!
# Lexical goals

What a slash or a closing brace means depends on where it stands in the program,
which only the caller knows. The caller names a goal with every pull: whether a
slash divides or opens a regular expression, and whether a closing brace resumes
a template literal.
-/

set_option autoImplicit false

namespace GoalLexer

inductive Goal where
  | div
  | regExp
  | regExpOrTemplateTail
  | templateTail
  deriving DecidableEq, Repr, Inhabited

namespace Goal

def allowsRegex : Goal → Bool
  | regExp | regExpOrTemplateTail => true
  | div | templateTail => false

def allowsDiv : Goal → Bool
  | div | templateTail => true
  | regExp | regExpOrTemplateTail => false

def allowsTemplateTail : Goal → Bool
  | regExpOrTemplateTail | templateTail => true
  | div | regExp => false

/-- The goal symbol of the lexical grammar. -/
def name : Goal → String
  | div => "InputElementDiv"
  | regExp => "InputElementRegExp"
  | regExpOrTemplateTail => "InputElementRegExpOrTemplateTail"
  | templateTail => "InputElementTemplateTail"

end Goal

end GoalLexer
