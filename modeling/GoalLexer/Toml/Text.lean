import GoalLexer.Text.CharClass
import GoalLexer.Toml.Reader

/-!
# Strings and keys of TOML

Basic strings have escapes, literal strings have none; both come on one line or
between triple quotes on several. Only keys are kept as text: what a string value
says is of no use here, so long strings are checked and passed over.
-/

set_option autoImplicit false

namespace GoalLexer.Toml

open GoalLexer.Toml.Reader

/-- Characters of basic strings that stand for themselves. -/
def isBasicChar (c : Char) : Bool :=
  isCommentChar c && c != '"' && c != '\\'

/-- Characters of literal strings. -/
def isLiteralChar (c : Char) : Bool :=
  isCommentChar c && c != '\x27'

/-- The value of a digit in any base up to sixteen. -/
def digitValue (c : Char) : Nat :=
  if c.isDigit then c.toNat - '0'.toNat
  else if c.isLower then c.toNat - 'a'.toNat + 10
  else c.toNat - 'A'.toNat + 10

/-- The number that digits in a base stand for. -/
def ofDigits (base : Nat) (digits : List Char) : Nat :=
  digits.foldl (fun n c => base * n + digitValue c) 0

/-- Exactly `n` characters that satisfy `p`. -/
def exactly (p : Char → Bool) : (n : Nat) → Reader (List Char)
  | 0 => return []
  | n + 1 => do
      let c ← satisfy p
      return c :: (← exactly p n)

/-- A character given by `n` hexadecimal digits. -/
def hexChar (n : Nat) : Reader Char := do
  let code := ofDigits 16 (← exactly isHexDigit n)
  if code.isValidChar then return Char.ofNat code else failure

/-- A character after a backslash. -/
def escaped : Reader Char := do
  char '\\'
  match ← satisfy fun _ => true with
  | 'b' => return '\x08'
  | 't' => return '\t'
  | 'n' => return '\n'
  | 'f' => return '\x0c'
  | 'r' => return '\r'
  | '"' => return '"'
  | '\\' => return '\\'
  | 'u' => hexChar 4
  | 'U' => hexChar 8
  | _ => failure

def basicString : Reader String := do
  char '"'
  let cs ← many (satisfy isBasicChar <|> escaped)
  char '"'
  return String.ofList cs

def literalString : Reader String := do
  char '\x27'
  let cs ← takeWhile isLiteralChar
  char '\x27'
  return String.ofList cs

/-- One or two quotes that do not close a long string. -/
def innerQuotes (quote : Char) : Reader Unit := do
  let quotes ← takeWhile (· == quote)
  if quotes.length = 1 ∨ quotes.length = 2 then return () else failure

/-- The quotes that close a long string; up to two more before them belong to
the string. -/
def closingQuotes (quote : Char) : Reader Unit := do
  let quotes ← takeWhile (· == quote)
  if 3 ≤ quotes.length ∧ quotes.length ≤ 5 then return () else failure

/-- A string between triple quotes; a line end right after the opening is not
part of it. -/
def longString (quote : Char) (content : Reader Unit) : Reader Unit := do
  text [quote, quote, quote]
  let _ ← optionally newline
  let _ ← many (content <|> newline <|> innerQuotes quote)
  closingQuotes quote

/-- A backslash at the end of a line takes the blanks and line ends after it
along. -/
def escapedNewline : Reader Unit := do
  char '\\'
  blanks
  newline
  let _ ← many ((do let _ ← satisfy isBlank) <|> newline)

def longBasicString : Reader Unit :=
  longString '"' ((do let _ ← satisfy isBasicChar) <|> escapedNewline <|> (do let _ ← escaped))

def longLiteralString : Reader Unit :=
  longString '\x27' (do let _ ← satisfy isLiteralChar)

/-- A string value. -/
def stringValue : Reader Unit :=
  longBasicString <|> longLiteralString <|> (do let _ ← basicString) <|>
    (do let _ ← literalString)

/-! ## Keys -/

/-- A key in dotted form: the names of the tables it goes through, and its own
name. -/
structure Key where
  path : List String
  name : String
  deriving DecidableEq, Repr

/-- All names of a key in order. -/
def Key.names (k : Key) : List String := k.path ++ [k.name]

def isBareKeyChar (c : Char) : Bool := c.isAlphanum || c == '_' || c == '-'

def bareKey : Reader String := do
  let cs ← takeWhile isBareKeyChar
  if cs.isEmpty then failure else return String.ofList cs

def simpleKey : Reader String :=
  basicString <|> literalString <|> bareKey

/-- Nesting deeper than this is refused. -/
def depthLimit : Nat := 80

def key : Reader Key := do
  let (first, more) ← separated (do blanks; let k ← simpleKey; blanks; return k) (char '.')
  let names := first :: more
  if names.length < depthLimit then
    return ⟨names.dropLast, names.getLastD first⟩
  else failure

end GoalLexer.Toml
