/-!
# Reserved words

The words that cannot name things. Strict mode code reserves some more. A word
is looked up as a whole, so a name that merely starts with a reserved word is
not reserved.
-/

set_option autoImplicit false

namespace GoalLexer

/-- The reserved words of strict or of ordinary code. -/
structure ReservedWords where
  strict : Bool
  deriving DecidableEq, Repr

namespace ReservedWords

def keywords : List String :=
  ["break", "case", "catch", "class", "const", "continue", "debugger", "default", "delete",
    "do", "else", "export", "extends", "finally", "for", "function", "if", "import", "in",
    "instanceof", "new", "return", "super", "switch", "this", "throw", "try", "typeof", "var",
    "void", "while", "with", "yield"]

def futureReserved : List String := ["enum", "await"]

/-- Words that are values. -/
def literals : List String := ["null", "true", "false"]

/-- Words reserved in strict mode code only. -/
def strictReserved : List String :=
  ["implements", "interface", "let", "package", "private", "protected", "public", "static"]

def contains (r : ReservedWords) (word : String) : Bool :=
  keywords.contains word || futureReserved.contains word || literals.contains word ||
    (r.strict && strictReserved.contains word)

/-- All reserved words, table after table. -/
def words (r : ReservedWords) : List String :=
  keywords ++ futureReserved ++ literals ++ (if r.strict then strictReserved else [])

/-- Longer words first, words of one length in alphabetical order. -/
def precedes (a b : String) : Bool :=
  b.utf8ByteSize < a.utf8ByteSize || (a.utf8ByteSize == b.utf8ByteSize && decide (a ≤ b))

/-- All reserved words, the longest first. -/
def ordered (r : ReservedWords) : List String :=
  r.words.eraseDups.mergeSort precedes

def size (r : ReservedWords) : Nat := r.ordered.length

end ReservedWords

end GoalLexer
