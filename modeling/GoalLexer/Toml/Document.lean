import GoalLexer.Toml.Number
import GoalLexer.Toml.Table

/-!
# Documents of TOML

The text of a document is a sequence of expressions: keys with values, and
headers of tables. `expressions` reads them, and `Table.ofExpressions` builds the
tree they describe; a key belongs to the table of the last header before it.
-/

set_option autoImplicit false

namespace GoalLexer.Toml

open GoalLexer.Toml.Reader

/-! ## Values -/

/-- The pairs of a table in braces must make a table. -/
def Value.ofPairs (pairs : List (Key × Value)) : Option Value := do
  let _ ← pairs.foldlM (fun t pair => t.insert pair.1 pair.2) Table.root
  return .inlineTable

/-- The items of an array; a comma may follow the last one. -/
def arrayItems (item : Reader Value) : Reader Unit := do
  let items ← optionally (separated (do arraySpace; let v ← item; arraySpace; return v) (char ','))
  if items.isSome then
    let _ ← optionally (char ',')
  arraySpace

def pair (item : Reader Value) : Reader (Key × Value) := do
  let k ← key
  char '='
  blanks
  let value ← item
  return (k, value)

/-- The pairs of a table in braces, on one line and without a last comma. -/
def inlinePairs (item : Reader Value) : Reader (List (Key × Value)) := do
  match ← optionally (separated (do let p ← pair item; blanks; return p) (char ',')) with
  | some (first, more) => return first :: more
  | none =>
      blanks
      return []

/-- A value that holds no other values. -/
def scalar : Reader Value := do
  match ← peek with
  | some '"' | some '\x27' =>
      stringValue
      return .string
  | some 't' =>
      text ['t', 'r', 'u', 'e']
      return .boolean true
  | some 'f' =>
      text ['f', 'a', 'l', 's', 'e']
      return .boolean false
  | _ =>
      (do dateTime; return .dateTime) <|> (do numericFloat <|> namedFloat; return .number) <|>
        (do integer; return .number)

/-- A value in which arrays and tables in braces nest at most `depth` deep. -/
def value : (depth : Nat) → Reader Value
  | 0 => scalar
  | depth + 1 => do
      match ← peek with
      | some '[' =>
          char '['
          arrayItems (value depth)
          char ']'
          return .array
      | some '{' =>
          char '{'
          let pairs ← inlinePairs (value depth)
          char '}'
          Value.ofPairs pairs
      | _ => scalar

/-! ## Expressions -/

inductive Expression where
  | pair (key : Key) (value : Value)
  | header (key : Key)
  | arrayHeader (key : Key)
  deriving DecidableEq, Repr

/-- A key with its value, alone on its line. -/
def pairLine : Reader Expression := do
  let (k, v) ← pair (value (depthLimit - 1))
  lineRest
  return .pair k v

def headerLine : Reader Expression := do
  char '['
  let k ← key
  char ']'
  lineRest
  return .header k

def arrayHeaderLine : Reader Expression := do
  text ['[', '[']
  let k ← key
  text [']', ']']
  lineRest
  return .arrayHeader k

/-- The expression on the next line, if the line has one. -/
def line : Reader (Option Expression) := do
  match ← get with
  | '#' :: _ =>
      comment
      lineEnd
      return none
  | '[' :: '[' :: _ => some <$> arrayHeaderLine
  | '[' :: _ => some <$> headerLine
  | '\n' :: _ | '\r' :: _ =>
      newline
      return none
  | _ => some <$> pairLine

/-- The expressions of a text, which may start with a byte order mark. Each line
takes at least one character. -/
def expressions (cs : List Char) : Option (List Expression) := do
  let cs := match cs with
    | '\uFEFF' :: rest => rest
    | _ => cs
  let ((), cs) ← blanks.run cs
  let (lines, rest) ← (many (do let e ← line; blanks; return e)).run cs
  if rest.isEmpty then return lines.filterMap id else failure

/-! ## The tree -/

/-- A table under construction: the root, and the path of the last header. -/
structure Builder where
  root : Table := .root
  path : List String := []

/-- Adds an expression. Keys go to the table of the last header. -/
def Builder.add (b : Builder) : Expression → Option Builder
  | .pair k v => do
      let root ← b.root.descend false (·.insert k v) b.path
      return { b with root }
  | .header k => do
      let root ← b.root.define k
      return ⟨root, k.names⟩
  | .arrayHeader k => do
      let root ← b.root.extend k
      return ⟨root, k.names⟩

def Table.ofExpressions (es : List Expression) : Option Table := do
  let built ← es.foldlM (·.add ·) ({} : Builder)
  return built.root

/-- The table of a document. -/
def Table.ofText? (document : String) : Option Table := do
  Table.ofExpressions (← expressions document.toList)

end GoalLexer.Toml
