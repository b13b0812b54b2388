import GoalLexer.Goal
import GoalLexer.Options
import GoalLexer.Piece.Delimited
import GoalLexer.Piece.Number
import GoalLexer.Piece.Operator
import GoalLexer.Piece.Trivia
import GoalLexer.ReservedWords

/-!
# The next piece

`Production.choose` looks at the unread text and picks the production of the
lexical grammar that applies; `Production.run` takes its piece. The order of the
choices matters: comments come before division, numbers before the punctuators
that share a first character with them.
-/

set_option autoImplicit false

namespace GoalLexer

inductive Production where
  | endOfInput
  | whiteSpace
  | lineTerminator
  | singleLineComment
  | multiLineComment
  | number
  | punctuator (text : String)
  | word
  | template
  | string
  | templateContinuation
  | division
  | rightBrace
  | regex
  | unexpected
  deriving DecidableEq, Repr

namespace Piece

/-- The longest identifier name, which may be a reserved word. -/
def word (reserved : ReservedWords) (cs : List Char) : Piece :=
  let lexeme := cs.take 1 ++ (cs.drop 1).takeWhile isIdContinue
  ⟨lexeme,
    .ok (if reserved.contains (String.ofList lexeme) then .reservedWord else .identifierName)⟩

/-- A single character of one kind. -/
def single (kind : TokenKind) (cs : List Char) : Piece := ⟨cs.take 1, .ok kind⟩

/-- A single character that starts no token. -/
def unexpected (cs : List Char) : Piece := ⟨cs.take 1, .error .unexpectedInput⟩

end Piece

namespace Production

/-- The production that applies to a character that starts neither trivia nor a
number nor a punctuator of the table. -/
def chooseByChar (goal : Goal) (c : Char) : Production :=
  if isIdStart c then .word
  else if c == Piece.backtick then .template
  else if c == '"' || c == '\x27' then .string
  else if c == '}' && goal.allowsTemplateTail then .templateContinuation
  else if c == '/' && goal.allowsDiv then .division
  else if c == '}' then .rightBrace
  else if c == '/' && goal.allowsRegex then .regex
  else .unexpected

/-- The production that applies to the unread text. -/
def choose (options : Options) (goal : Goal) : List Char → Production
  | [] => .endOfInput
  | c :: cs =>
      if isWhiteSpace c then .whiteSpace
      else if isLineTerminator c then .lineTerminator
      else if c == '/' && cs.head? == some '/' then .singleLineComment
      else if c == '/' && cs.head? == some '*' then .multiLineComment
      else if Piece.startsNumber options.signedNumericLiterals (c :: cs) then .number
      else
        match punctuator? (c :: cs) with
        | some text => .punctuator text
        | none => chooseByChar goal c

/-- The piece that a production takes from the unread text. -/
def run (options : Options) : Production → List Char → Piece
  | endOfInput, _ => ⟨[], .ok .endOfInput⟩
  | whiteSpace, cs => Piece.whiteSpace cs
  | lineTerminator, cs => Piece.lineTerminator cs
  | singleLineComment, cs => Piece.singleLineComment cs
  | multiLineComment, cs => Piece.multiLineComment cs
  | number, cs => Piece.number cs
  | punctuator text, _ => Piece.punctuator text
  | word, cs => Piece.word ⟨options.strictMode⟩ cs
  | template, cs => Piece.template cs
  | string, cs => Piece.stringLiteral cs
  | templateContinuation, cs => Piece.templateContinuation cs
  | division, cs => Piece.divPunctuator cs
  | rightBrace, cs => Piece.single .rightBracePunctuator cs
  | regex, cs => Piece.regex cs
  | unexpected, cs => Piece.unexpected cs

end Production

/-- The next piece of the unread text under a goal. -/
def Piece.scan (options : Options) (goal : Goal) (cs : List Char) : Piece :=
  (Production.choose options goal cs).run options cs

end GoalLexer
