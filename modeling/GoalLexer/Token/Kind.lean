/-!
# Kinds of tokens
-/

set_option autoImplicit false

namespace GoalLexer

inductive TokenKind where
  | error
  | endOfInput
  | multiLineComment
  | singleLineComment
  | whiteSpace
  | lineTerminator
  | identifierName
  | reservedWord
  | punctuator
  | rightBracePunctuator
  | divPunctuator
  | numericLiteral
  | stringLiteral
  | noSubstitutionTemplate
  | templateHead
  | templateMiddle
  | templateTail
  | regularExpressionLiteral
  deriving DecidableEq, Repr

namespace TokenKind

def name : TokenKind → String
  | error => "Error"
  | endOfInput => "EndOfInput"
  | multiLineComment => "MultiLineComment"
  | singleLineComment => "SingleLineComment"
  | whiteSpace => "WhiteSpace"
  | lineTerminator => "LineTerminator"
  | identifierName => "IdentifierName"
  | reservedWord => "ReservedWord"
  | punctuator => "Punctuator"
  | rightBracePunctuator => "RightBracePunctuator"
  | divPunctuator => "DivPunctuator"
  | numericLiteral => "NumericLiteral"
  | stringLiteral => "StringLiteral"
  | noSubstitutionTemplate => "NoSubstitutionTemplate"
  | templateHead => "TemplateHead"
  | templateMiddle => "TemplateMiddle"
  | templateTail => "TemplateTail"
  | regularExpressionLiteral => "RegularExpressionLiteral"

def all : List TokenKind :=
  [error, endOfInput, multiLineComment, singleLineComment, whiteSpace, lineTerminator,
    identifierName, reservedWord, punctuator, rightBracePunctuator, divPunctuator,
    numericLiteral, stringLiteral, noSubstitutionTemplate, templateHead, templateMiddle,
    templateTail, regularExpressionLiteral]

def ofName? (text : String) : Option TokenKind :=
  all.find? (·.name == text)

/-- Tokens that a lexer may be told to skip. Line terminators are not among
them, because they matter to the grammar of statements. -/
def isTrivia : TokenKind → Bool
  | whiteSpace | singleLineComment | multiLineComment => true
  | _ => false

/-- The pieces of template literals. -/
def isTemplate : TokenKind → Bool
  | noSubstitutionTemplate | templateHead | templateMiddle | templateTail => true
  | _ => false

end TokenKind

end GoalLexer
