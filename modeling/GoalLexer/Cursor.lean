import GoalLexer.Fault
import GoalLexer.Text.CharClass
import GoalLexer.Text.Utf8

/-!
# Cursors

A cursor walks over a text one character at a time and counts bytes, lines and
columns as it goes. It remembers a mark, where the lexeme under construction
began, and the place before the last character it read, so that one character
can be un-read.

A `Place` holds what is still unread next to the running counts. A line
terminator moves to the next line, except that a CR right before an LF moves
only the column: the pair is one break, counted at the LF.
-/

set_option autoImplicit false

namespace GoalLexer

/-- A spot in a text: what follows it, and where it is. -/
structure Place where
  rest : List Char
  offset : Nat
  line : Nat
  column : Nat
  deriving DecidableEq, Repr

namespace Place

/-- The beginning of a text. -/
def start (text : List Char) : Place := ⟨text, 0, 1, 0⟩

/-- Byte offset, line and column. -/
def coordinates (p : Place) : Nat × Nat × Nat := (p.offset, p.line, p.column)

/-- Whether reading `c` with `rest` after it ends a line. -/
def endsLine (c : Char) (rest : List Char) : Bool :=
  isLineTerminator c && !(c == '\r' && rest.head? == some '\n')

/-- The place after reading `c`, which is followed by `rest`. -/
def after (p : Place) (c : Char) (rest : List Char) : Except Fault Place :=
  if endsLine c rest then do
    let line ← nextCount p.line
    return ⟨rest, p.offset + c.utf8Size, line, 0⟩
  else do
    let column ← nextCount p.column
    return ⟨rest, p.offset + c.utf8Size, p.line, column⟩

end Place

structure Cursor where
  source : String
  place : Place
  mark : Place
  /-- The place before the last character read, until it is un-read or given up. -/
  previous : Option Place
  deriving DecidableEq, Repr

namespace Cursor

def ofText (source : String) : Cursor :=
  let place := Place.start source.toList
  ⟨source, place, place, none⟩

/-- The next character, left unread. -/
def peek (c : Cursor) : Option Char := c.place.rest.head?

/-- The character `n` places ahead. -/
def peekNth (c : Cursor) (n : Nat) : Option Char := c.place.rest[n]?

def isAtEnd (c : Cursor) : Bool := c.place.rest.isEmpty

/-- Reads one character; at the end of the text nothing changes. -/
def advance (c : Cursor) : Except Fault (Option Char × Cursor) :=
  match c.place.rest with
  | [] => .ok (none, c)
  | ch :: rest => do
      let place ← c.place.after ch rest
      return (some ch, { c with place, previous := some c.place })

/-- Reads `n` characters, or as many as there are. -/
def advanceBy : Nat → Cursor → Except Fault Cursor
  | 0, c => .ok c
  | n + 1, c => do
      let (_, c) ← c.advance
      advanceBy n c

/-- Goes back to a place, and gives up the one-character history. -/
def restore (c : Cursor) (place : Place) : Cursor :=
  { c with place, previous := none }

/-- Un-reads the last character read. -/
def backup (c : Cursor) : Except Fault Cursor :=
  match c.previous with
  | some place => .ok (c.restore place)
  | none => .error .nothingToUnread

/-- Reads the next character if it satisfies `p`. -/
def eatIf (c : Cursor) (p : Char → Bool) : Except Fault (Option Char × Cursor) :=
  if c.peek.any p then c.advance else .ok (none, c)

/-- Reads the next character if it is the expected one. -/
def eat (c : Cursor) (expected : Char) : Except Fault (Bool × Cursor) := do
  let (read, c) ← c.eatIf (· == expected)
  return (read.isSome, c)

/-- Reads the longest run that satisfies `p`, and counts it. -/
def eatWhile (c : Cursor) (p : Char → Bool) : Except Fault (Nat × Cursor) := do
  let count := (c.place.rest.takeWhile p).length
  let c ← c.advanceBy count
  return (count, c)

def startsWith (c : Cursor) (text : String) : Bool :=
  text.toList.isPrefixOf c.place.rest

/-- Reads `text` if it comes next. -/
def eatText (c : Cursor) (text : String) : Except Fault (Bool × Cursor) :=
  if c.startsWith text then do
    let c ← c.advanceBy text.toList.length
    return (true, c)
  else .ok (false, c)

/-- Begins a new lexeme here. -/
def setMark (c : Cursor) : Cursor :=
  { c with mark := c.place, previous := none }

/-- The text read since the mark, which must not lie ahead. -/
def lexeme (c : Cursor) : Except Fault String :=
  if c.mark.offset ≤ c.place.offset then
    match Utf8.takeBytes c.mark.rest (c.place.offset - c.mark.offset) with
    | some text => .ok (String.ofList text)
    | none => .error .invalidSlice
  else .error .invalidSlice

/-- The text from byte `start` of the source up to here. -/
def sliceFrom (c : Cursor) (start : Nat) : Except Fault String :=
  match Utf8.slice c.source.toList start c.place.offset with
  | some text => .ok (String.ofList text)
  | none => .error .invalidSlice

/-- The text from here to the end. -/
def remaining (c : Cursor) : String := String.ofList c.place.rest

end Cursor

end GoalLexer
