import GoalLexer.Text.UnprintableTable

/-!
# Quoted text

The form in which messages show a text or a character: between quotes, with
escapes for the quote itself, the backslash, five common controls, and every
other character that cannot be printed.
-/

set_option autoImplicit false

namespace GoalLexer.Quoted

/-- Characters shown by number: ASCII controls and the unprintable ones above. -/
def isUnprintable (c : Char) : Bool :=
  c.toNat < 0x20 || c.toNat == 0x7F || UnprintableTable.table.contains c.toNat

/-- The number of a character in lower-case hexadecimal, between braces. -/
def byNumber (c : Char) : List Char :=
  ['\\', 'u', '{'] ++ Nat.toDigits 16 c.toNat ++ ['}']

/-- One character between quotes of the given kind. -/
def escape (quote c : Char) : List Char :=
  if c == quote || c == '\\' then ['\\', c]
  else if c == '\x00' then ['\\', '0']
  else if c == '\t' then ['\\', 't']
  else if c == '\r' then ['\\', 'r']
  else if c == '\n' then ['\\', 'n']
  else if isUnprintable c then byNumber c
  else [c]

/-- A text between double quotes. -/
def text (s : String) : String :=
  String.ofList ('"' :: (s.toList.flatMap (escape '"') ++ ['"']))

/-- A character between single quotes. -/
def char (c : Char) : String :=
  String.ofList ('\x27' :: (escape '\x27' c ++ ['\x27']))

end GoalLexer.Quoted
