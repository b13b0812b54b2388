/-!
# Diagnostic codes

A code is a family of letters and a number, written with at least four digits.
The codes of lexical errors have names.
-/

set_option autoImplicit false

namespace GoalLexer

structure DiagnosticCode where
  family : String
  number : Nat
  deriving DecidableEq, Repr

namespace DiagnosticCode

/-- The number, filled up with zeros to four digits. -/
def digits (code : DiagnosticCode) : List Char :=
  (Nat.toDigits 10 code.number).leftpad 4 '0'

def text (code : DiagnosticCode) : String :=
  code.family ++ String.ofList code.digits

/-- The form shown to programmers. -/
def debugText (code : DiagnosticCode) : String :=
  "DiagnosticCode(" ++ code.text ++ ")"

def unexpectedChar : DiagnosticCode := ⟨"E", 1001⟩
def unterminatedString : DiagnosticCode := ⟨"E", 1002⟩
def invalidNumber : DiagnosticCode := ⟨"E", 1003⟩
def unterminatedComment : DiagnosticCode := ⟨"E", 1004⟩
def unterminatedTemplate : DiagnosticCode := ⟨"E", 1005⟩
def unterminatedRegex : DiagnosticCode := ⟨"E", 1006⟩
def invalidRegex : DiagnosticCode := ⟨"E", 1007⟩

/-- The codes of lexical errors with their names. -/
def named : List (String × DiagnosticCode) :=
  [("E_LEXER_UNEXPECTED_CHAR", unexpectedChar),
    ("E_LEXER_UNTERMINATED_STRING", unterminatedString),
    ("E_LEXER_INVALID_NUMBER", invalidNumber),
    ("E_LEXER_UNTERMINATED_COMMENT", unterminatedComment),
    ("E_LEXER_UNTERMINATED_TEMPLATE", unterminatedTemplate),
    ("E_LEXER_UNTERMINATED_REGEX", unterminatedRegex),
    ("E_LEXER_INVALID_REGEX", invalidRegex)]

/-- The name of a code, if it has one. -/
def name? (code : DiagnosticCode) : Option String :=
  (named.find? (·.2 == code)).map (·.1)

end DiagnosticCode

end GoalLexer
