import GoalLexer.Text.IdentifierTable
import GoalLexer.Text.AlphabeticTable

/-!
# Classes of code points

The classes that decide where tokens begin and end. Letters and digits of ASCII
are decided by core's predicates, which know ASCII only; everything above is
looked up in the range tables.

`CharClass` names the classes as data, and `CharClass.runs` lists a class as the
maximal runs of its members.
-/

set_option autoImplicit false

namespace GoalLexer

def isLineTerminator (c : Char) : Bool :=
  c == '\n' || c == '\r' || c == '\u2028' || c == '\u2029'

/-- White space without the line terminators: tab, vertical tab, form feed, the
byte order mark and the space separators. -/
def isWhiteSpace (c : Char) : Bool :=
  let n := c.toNat
  n == 0x09 || n == 0x0B || n == 0x0C || n == 0x20 || n == 0xA0 || n == 0x1680 ||
    (0x2000 ≤ n && n ≤ 0x200A) || n == 0x202F || n == 0x205F || n == 0x3000 || n == 0xFEFF

def isAscii (c : Char) : Bool :=
  c.toNat < 0x80

def isIdStart (c : Char) : Bool :=
  if isAscii c then c.isAlpha || c == '$' || c == '_'
  else IdentifierTable.start.contains c.toNat

/-- The table holds the two joiners U+200C and U+200D as well. -/
def isIdContinue (c : Char) : Bool :=
  if isAscii c then c.isAlphanum || c == '$' || c == '_'
  else IdentifierTable.start.contains c.toNat || IdentifierTable.continueOnly.contains c.toNat

/-- The code points that may not follow a numeric literal. -/
def isAlphabetic (c : Char) : Bool :=
  if isAscii c then c.isAlpha
  else AlphabeticTable.added.contains c.toNat ||
    (IdentifierTable.start.contains c.toNat && !AlphabeticTable.removed.contains c.toNat)

def isDecimalDigit (c : Char) : Bool :=
  c.isDigit

def isHexDigit (c : Char) : Bool :=
  c.isDigit || ('a' ≤ c && c ≤ 'f') || ('A' ≤ c && c ≤ 'F')

def isOctalDigit (c : Char) : Bool :=
  '0' ≤ c && c ≤ '7'

def isBinaryDigit (c : Char) : Bool :=
  c == '0' || c == '1'

/-- Only the four bases of numeric literals have digits. -/
def isDigitInBase (base : Nat) (c : Char) : Bool :=
  match base with
  | 2 => isBinaryDigit c
  | 8 => isOctalDigit c
  | 10 => isDecimalDigit c
  | 16 => isHexDigit c
  | _ => false

def isControl (c : Char) : Bool :=
  c.toNat < 0x20 || (0x7F ≤ c.toNat && c.toNat ≤ 0x9F)

/-- Controls that may stand in a regular expression literal only after a
backslash. The line terminators have a rule of their own. -/
def isRegexForbidden (c : Char) : Bool :=
  isControl c && c != '\t' && !isLineTerminator c

/-- The classes of code points by name. -/
inductive CharClass where
  | whiteSpace
  | lineTerminator
  | notLineTerminator
  | idStart
  | idContinue
  | regexForbidden
  | any
  | digit (base : Nat)
  deriving DecidableEq, Repr

namespace CharClass

def holds : CharClass → Char → Bool
  | whiteSpace, c => isWhiteSpace c
  | lineTerminator, c => isLineTerminator c
  | notLineTerminator, c => !isLineTerminator c
  | idStart, c => isIdStart c
  | idContinue, c => isIdContinue c
  | regexForbidden, c => isRegexForbidden c
  | any, _ => true
  | digit base, c => isDigitInBase base c

/-- Whether a number is a code point of the class; surrogates are in none. -/
def holdsAt (cls : CharClass) (n : Nat) : Bool :=
  decide n.isValidChar && cls.holds (Char.ofNat n)

/-- The runs among the `count` numbers from `n` on, where `opened` is the first
member of a run that is still open. -/
def runsFrom (p : Nat → Bool) : (count n : Nat) → (opened : Option Nat) → List (Nat × Nat)
  | 0, _, none => []
  | 0, n, some first => [(first, n - 1)]
  | count + 1, n, none => runsFrom p count (n + 1) (if p n then some n else none)
  | count + 1, n, some first =>
      if p n then runsFrom p count (n + 1) (some first)
      else (first, n - 1) :: runsFrom p count (n + 1) none

/-- The greatest code point. -/
def lastCodePoint : Nat := 0x10FFFF

/-- The maximal runs of members from `first` up to and including `last`. -/
def runs (cls : CharClass) (first last : Nat) : List (Nat × Nat) :=
  runsFrom cls.holdsAt (min last lastCodePoint + 1 - first) first none

end CharClass

end GoalLexer
