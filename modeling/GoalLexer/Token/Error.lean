import GoalLexer.Diagnostic.Code
import GoalLexer.Text.Quoted

/-!
# Lexical errors

Why a stretch of source text is no token. Every cause has a wording and a
diagnostic code.
-/

set_option autoImplicit false

namespace GoalLexer

inductive LexError where
  /-- No token starts with this character. -/
  | unexpectedInput
  | unterminatedComment
  | unterminatedString
  | unterminatedTemplate
  /-- A template resumed by a closing brace does not end. -/
  | unterminatedTemplateTail
  /-- A regular expression is cut off by a line terminator. -/
  | regexLineTerminator
  | unterminatedRegex
  | invalidRegexChar (c : Char)
  | badNumber (text : String)
  deriving DecidableEq, Repr

namespace LexError

def message : LexError → String
  | unexpectedInput => "unexpected end of input"
  | unterminatedComment => "unterminated multi-line comment"
  | unterminatedString => "did not reach end of string literal reached eof"
  | unterminatedTemplate => "did not reach end of template literal reached eof"
  | unterminatedTemplateTail => "did not reach TemplateMiddle or TemplateTail but reached eof"
  | regexLineTerminator => "regex can't have new lines"
  | unterminatedRegex => "regex did not close with '/'"
  | invalidRegexChar c => "invalid character " ++ Quoted.char c ++ " in regex"
  | badNumber text => "bad number syntax: " ++ Quoted.text text

def code : LexError → DiagnosticCode
  | unexpectedInput => .unexpectedChar
  | unterminatedComment => .unterminatedComment
  | unterminatedString => .unterminatedString
  | unterminatedTemplate | unterminatedTemplateTail => .unterminatedTemplate
  | regexLineTerminator | unterminatedRegex => .unterminatedRegex
  | invalidRegexChar _ => .invalidRegex
  | badNumber _ => .invalidNumber

end LexError

end GoalLexer
