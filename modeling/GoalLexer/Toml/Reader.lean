/-!
# Readers of TOML text

A reader takes something from the front of a text and leaves the rest, or fails.
Failing gives the text back, so an alternative starts where the first one did.
This module has the readers for repetition, blanks, line ends and comments.
-/

set_option autoImplicit false

namespace GoalLexer.Toml

abbrev Reader := StateT (List Char) Option

namespace Reader

/-- The next character, left in place. -/
def peek : Reader (Option Char) := do
  return (← get).head?

/-- The next character, which must satisfy `p`. -/
def satisfy (p : Char → Bool) : Reader Char := do
  match ← get with
  | c :: cs =>
      if p c then
        set cs
        return c
      else failure
  | [] => failure

/-- A given character. -/
def char (c : Char) : Reader Unit := do
  let _ ← satisfy (· == c)

/-- A given text. -/
def text : List Char → Reader Unit
  | [] => return ()
  | c :: cs => do
      char c
      text cs

/-- The longest run of characters that satisfy `p`. -/
def takeWhile (p : Char → Bool) : Reader (List Char) := do
  let cs ← get
  set (cs.dropWhile p)
  return cs.takeWhile p

/-- The result of a reader, or nothing where it fails. -/
def optionally {α : Type} (r : Reader α) : Reader (Option α) :=
  (some <$> r) <|> return none

/-- Up to `fuel` results of a reader in a row. -/
def manyAux {α : Type} (r : Reader α) : (fuel : Nat) → Reader (List α)
  | 0 => return []
  | fuel + 1 => do
      match ← optionally r with
      | some a => return a :: (← manyAux r fuel)
      | none => return []

/-- The results of a reader for as long as it succeeds. A reader that succeeds
takes at least one character. -/
def many {α : Type} (r : Reader α) : Reader (List α) := do
  manyAux r (← get).length

/-- One or more results, divided by a separator. -/
def separated {α : Type} (r : Reader α) (separator : Reader Unit) : Reader (α × List α) := do
  let first ← r
  let more ← many (do separator; r)
  return (first, more)

end Reader

open GoalLexer.Toml.Reader

def isBlank (c : Char) : Bool := c == ' ' || c == '\t'

/-- Characters of comments: no controls but the tab. -/
def isCommentChar (c : Char) : Bool :=
  c == '\t' || (0x20 ≤ c.toNat && c.toNat ≤ 0x7E) || 0x80 ≤ c.toNat

def blanks : Reader Unit := do
  let _ ← takeWhile isBlank

/-- LF or CR LF; a CR alone is no line end. -/
def newline : Reader Unit :=
  char '\n' <|> text ['\r', '\n']

def comment : Reader Unit := do
  char '#'
  let _ ← takeWhile isCommentChar

/-- The end of a line or of the text. -/
def lineEnd : Reader Unit := do
  match ← get with
  | [] => return ()
  | _ :: _ => newline

/-- What may follow an expression on its line. -/
def lineRest : Reader Unit := do
  blanks
  let _ ← optionally comment
  lineEnd

/-- Blanks, line ends and comments between the items of an array. -/
def arraySpace : Reader Unit := do
  let _ ← many ((do let _ ← satisfy isBlank) <|> newline <|> (do comment; newline))

end GoalLexer.Toml
