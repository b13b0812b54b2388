import GoalLexer.Piece.Basic
import GoalLexer.Text.CharClass

/-!
# Literals between delimiters

String literals, the pieces of template literals, and regular expression
literals. A string ends at the first quote of its kind, whatever comes before.
In a template and in a regular expression a backslash takes the next character
along; a template piece ends at a backtick or at the opening of a substitution,
and a regular expression at a slash outside of brackets.
-/

set_option autoImplicit false

namespace GoalLexer.Piece

/-! ## Strings -/

/-- What follows an opening quote, through the closing one. -/
def stringBody (quote : Char) : List Char → Option (List Char)
  | [] => none
  | c :: cs => if c == quote then some [c] else (stringBody quote cs).map (c :: ·)

/-- A string literal; one that is not closed takes all the rest. -/
def stringLiteral : List Char → Piece
  | [] => ⟨[], .error .unterminatedString⟩
  | quote :: cs =>
      match stringBody quote cs with
      | some body => ⟨quote :: body, .ok .stringLiteral⟩
      | none => ⟨quote :: cs, .error .unterminatedString⟩

/-! ## Templates -/

/-- What a piece of a template literal ends with. -/
inductive TemplateEnd where
  | backtick
  | substitution
  deriving DecidableEq, Repr

def backtick : Char := '\x60'

/-- What follows the opening of a template piece, through its end. -/
def templateBody : List Char → Option (List Char × TemplateEnd)
  | [] => none
  | c :: cs =>
      if c == backtick then some ([c], .backtick)
      else if c == '$' && cs.head? == some '{' then some (['$', '{'], .substitution)
      else if c == '\\' then
        match cs with
        | [] => none
        | escaped :: cs => (templateBody cs).map fun (body, stop) => (c :: escaped :: body, stop)
      else (templateBody cs).map fun (body, stop) => (c :: body, stop)

/-- A template piece that ends in one of two kinds; one without end takes all
the rest. -/
def templatePiece (closed opened : TokenKind) (error : LexError) (cs : List Char) : Piece :=
  match templateBody (cs.drop 1) with
  | some (body, .backtick) => ⟨cs.take 1 ++ body, .ok closed⟩
  | some (body, .substitution) => ⟨cs.take 1 ++ body, .ok opened⟩
  | none => ⟨cs, .error error⟩

/-- A template literal from its backtick. -/
def template : List Char → Piece :=
  templatePiece .noSubstitutionTemplate .templateHead .unterminatedTemplate

/-- A template literal from the brace that closes a substitution. -/
def templateContinuation : List Char → Piece :=
  templatePiece .templateTail .templateMiddle .unterminatedTemplateTail

/-! ## Regular expressions -/

/-- Where the body of a regular expression stops. -/
inductive RegexStop where
  /-- At the closing slash. -/
  | closed
  | lineTerminator
  | forbidden (c : Char)
  | endOfInput
  deriving DecidableEq, Repr

/-- Whether the characters after `c` are in brackets, where a slash does not
close. -/
def bracketAfter (inBrackets : Bool) (c : Char) : Bool :=
  if c == '[' then true else if c == ']' then false else inBrackets

/-- What follows the opening slash, through the closing one or up to what stops
it. A line terminator is left unread, a forbidden character is taken along. -/
def regexBody : (inBrackets : Bool) → List Char → List Char × RegexStop
  | _, [] => ([], .endOfInput)
  | inBrackets, c :: cs =>
      if isLineTerminator c then ([], .lineTerminator)
      else if c == '/' && !inBrackets then ([c], .closed)
      else if c == '\\' then
        match cs with
        | [] => ([c], .endOfInput)
        | escaped :: cs =>
            if isLineTerminator escaped then ([c], .lineTerminator)
            else
              let (body, stop) := regexBody inBrackets cs
              (c :: escaped :: body, stop)
      else if isRegexForbidden c then ([c], .forbidden c)
      else
        let (body, stop) := regexBody (bracketAfter inBrackets c) cs
        (c :: body, stop)

/-- A regular expression literal with its flags. -/
def regex (cs : List Char) : Piece :=
  let (body, stop) := regexBody false (cs.drop 1)
  let read := cs.take 1 ++ body
  match stop with
  | .closed => ⟨read ++ (cs.drop read.length).takeWhile isIdContinue, .ok .regularExpressionLiteral⟩
  | .lineTerminator => ⟨read, .error .regexLineTerminator⟩
  | .forbidden c => ⟨read, .error (.invalidRegexChar c)⟩
  | .endOfInput => ⟨read, .error .unterminatedRegex⟩

end GoalLexer.Piece
