import GoalLexer.Piece.Basic
import GoalLexer.Text.CharClass

/-!
# Numeric literals

A literal is a whole number in base 16, 8 or 2 after `0x`, `0o` or `0b`, or a
decimal number with an optional fraction and exponent. A minus sign may belong to
it. A number must not run into a letter: then, and where the digits after a base
or an exponent are missing, the piece is an error that takes one letter along.
-/

set_option autoImplicit false

namespace GoalLexer.Piece

/-- Whether a number without sign starts here. -/
def startsUnsigned : List Char → Bool
  | [] => false
  | c :: cs => isDecimalDigit c || (c == '.' && cs.head?.any isDecimalDigit)

/-- Whether a number starts here; `signed` lets it start with a minus sign. -/
def startsNumber (signed : Bool) : List Char → Bool
  | [] => false
  | c :: cs => startsUnsigned (c :: cs) || (signed && c == '-' && startsUnsigned cs)

/-- The base that a letter after a zero announces. -/
def radix? (c : Char) : Option Nat :=
  if c == 'x' || c == 'X' then some 16
  else if c == 'o' || c == 'O' then some 8
  else if c == 'b' || c == 'B' then some 2
  else none

/-- The error for the characters read, with the letter that follows them. -/
def badNumber (read rest : List Char) : Piece :=
  let lexeme := read ++ oneIf isAlphabetic rest
  ⟨lexeme, .error (.badNumber (String.ofList lexeme))⟩

/-- The characters read, unless a letter follows them. -/
def finishNumber (read rest : List Char) : Piece :=
  if rest.head?.any isAlphabetic then badNumber read rest else ⟨read, .ok .numericLiteral⟩

/-- The digits after a base. -/
def radixDigits (base : Nat) (read rest : List Char) : Piece :=
  let digits := rest.takeWhile (isDigitInBase base)
  if digits.isEmpty then badNumber read rest
  else finishNumber (read ++ digits) (rest.dropWhile (isDigitInBase base))

/-- The rest of a number after an exponent letter. -/
def exponentDigits (read rest : List Char) : Piece :=
  let sign := oneIf (fun c => c == '+' || c == '-') rest
  let rest := rest.drop sign.length
  let digits := rest.takeWhile isDecimalDigit
  if digits.isEmpty then badNumber (read ++ sign) rest
  else finishNumber (read ++ sign ++ digits) (rest.dropWhile isDecimalDigit)

/-- The rest of a number after its whole part and fraction. -/
def exponent (read rest : List Char) : Piece :=
  let letter := oneIf (fun c => c == 'e' || c == 'E') rest
  if letter.isEmpty then finishNumber read rest
  else exponentDigits (read ++ letter) (rest.drop 1)

/-- The rest of a decimal number after its sign. -/
def decimal (read rest : List Char) : Piece :=
  let whole := rest.takeWhile isDecimalDigit
  let rest := rest.dropWhile isDecimalDigit
  let point := oneIf (· == '.') rest
  if point.isEmpty then exponent (read ++ whole) rest
  else
    let rest := rest.drop 1
    exponent (read ++ whole ++ point ++ rest.takeWhile isDecimalDigit)
      (rest.dropWhile isDecimalDigit)

/-- A number without its sign, which has been read. -/
def unsignedNumber (sign : List Char) : List Char → Piece
  | '0' :: letter :: rest =>
      match radix? letter with
      | some base => radixDigits base (sign ++ ['0', letter]) rest
      | none => decimal sign ('0' :: letter :: rest)
  | rest => decimal sign rest

def number (cs : List Char) : Piece :=
  let sign := oneIf (· == '-') cs
  unsignedNumber sign (cs.drop sign.length)

end GoalLexer.Piece
