import GoalLexer.Toml.Text

/-!
# Numbers and date-times of TOML

Their values are of no use here, but a value out of range is refused: integers
have 64 bits, a float must not round to positive infinity, and dates and times
must exist.
-/

set_option autoImplicit false

namespace GoalLexer.Toml

open GoalLexer.Toml.Reader

/-! ## Numbers -/

/-- The digits after the first one, where an underscore may stand before each. -/
def moreDigits (p : Char → Bool) : Reader (List Char) :=
  many (satisfy p <|> (do char '_'; satisfy p))

/-- Digits of which the first may be zero. -/
def digits (p : Char → Bool) : Reader (List Char) := do
  let first ← satisfy p
  return first :: (← moreDigits p)

/-- Whether a minus sign stood there. -/
def sign : Reader Bool := do
  match ← optionally (satisfy fun c => c == '+' || c == '-') with
  | some c => return c == '-'
  | none => return false

/-- Decimal digits without superfluous zeros in front. -/
def wholeDigits : Reader (List Char) := do
  let first ← satisfy isDecimalDigit
  if first == '0' then return [first] else return first :: (← moreDigits isDecimalDigit)

/-- Integers lie below this bound, and not below its negative. -/
def integerBound : Nat := Nat.pow 2 63

/-- An integer in another base, which has no sign. -/
def radixInteger (letter : Char) (base : Nat) (p : Char → Bool) : Reader Unit := do
  text ['0', letter]
  let n := ofDigits base (← digits p)
  if n < integerBound then return () else failure

def decimalInteger : Reader Unit := do
  let negative ← sign
  let n := ofDigits 10 (← wholeDigits)
  if n < integerBound ∨ (negative = true ∧ n = integerBound) then return () else failure

def integer : Reader Unit :=
  radixInteger 'x' 16 isHexDigit <|>
    radixInteger 'o' 8 isOctalDigit <|>
    radixInteger 'b' 2 isBinaryDigit <|>
    decimalInteger

/-- The least number that rounds to infinity as a 64-bit float: halfway between
the greatest finite one and `2 ^ 1024`. -/
def infinityBound : Nat := Nat.pow 2 1024 - Nat.pow 2 970

/-- Whether the number with these digits, times ten to the exponent, rounds to
infinity. The first two tests spare the power of an exponent out of bounds. -/
def roundsToInfinity (digits : List Char) (exponent : Int) : Bool :=
  let n := ofDigits 10 digits
  let magnitude : Int := (Nat.toDigits 10 n).length + exponent
  if n = 0 then false
  else if 400 < magnitude then true
  else if magnitude < 300 then false
  else if 0 ≤ exponent then infinityBound ≤ n * Nat.pow 10 exponent.toNat
  else infinityBound * Nat.pow 10 (-exponent).toNat ≤ n

def fraction : Reader (List Char) := do
  char '.'
  digits isDecimalDigit

def exponent : Reader Int := do
  let _ ← satisfy fun c => c == 'e' || c == 'E'
  let negative ← sign
  let n := ofDigits 10 (← digits isDecimalDigit)
  return if negative then -n else n

def namedFloat : Reader Unit := do
  let _ ← sign
  text ['i', 'n', 'f'] <|> text ['n', 'a', 'n']

/-- A float has a fraction, an exponent or both. -/
def numericFloat : Reader Unit := do
  let negative ← sign
  let whole ← wholeDigits
  let fractionDigits ← optionally fraction
  let power ← if fractionDigits.isSome then optionally exponent else some <$> exponent
  let decimals := fractionDigits.getD []
  if !negative && roundsToInfinity (whole ++ decimals) (power.getD 0 - decimals.length) then failure
  else return ()

/-! ## Date-times -/

/-- Two digits that make a number of a range. -/
def twoDigits (low high : Nat) : Reader Nat := do
  let n := ofDigits 10 (← exactly isDecimalDigit 2)
  if low ≤ n ∧ n ≤ high then return n else failure

def isLeapYear (year : Nat) : Bool :=
  year % 4 == 0 && (year % 100 != 0 || year % 400 == 0)

def daysInMonth (year month : Nat) : Nat :=
  if month = 2 then (if isLeapYear year then 29 else 28)
  else if month = 4 ∨ month = 6 ∨ month = 9 ∨ month = 11 then 30
  else 31

def date : Reader Unit := do
  let year := ofDigits 10 (← exactly isDecimalDigit 4)
  char '-'
  let month ← twoDigits 1 12
  char '-'
  let _ ← twoDigits 1 (daysInMonth year month)

/-- A time of the day; the last minute may have a leap second. -/
def time : Reader Unit := do
  let _ ← twoDigits 0 23
  char ':'
  let _ ← twoDigits 0 59
  char ':'
  let _ ← twoDigits 0 60
  let _ ← optionally (do
    char '.'
    let _ ← satisfy isDecimalDigit
    let _ ← takeWhile isDecimalDigit)

/-- The distance to universal time. -/
def offset : Reader Unit :=
  (do let _ ← satisfy fun c => c == 'Z' || c == 'z') <|>
    (do
      let _ ← satisfy fun c => c == '+' || c == '-'
      let _ ← twoDigits 0 23
      char ':'
      let _ ← twoDigits 0 59)

def dateTime : Reader Unit :=
  (do
    date
    let _ ← optionally (do
      let _ ← satisfy fun c => c == 'T' || c == 't' || c == ' '
      time
      let _ ← optionally offset)) <|>
    time

end GoalLexer.Toml
