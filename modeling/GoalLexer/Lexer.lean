import GoalLexer.Cursor
import GoalLexer.Diagnostic.Log
import GoalLexer.Lexer.Event
import GoalLexer.Piece.Scan
import GoalLexer.Token.Basic

/-!
# Lexers

A lexer pulls tokens from a source, one at a time, each under a goal that the
caller names. Malformed text never stops it: it yields an error token and a
diagnostic, and the next pull goes on behind it.

A caller may look at the next token before pulling it. The token looked at is
kept with its goal; a pull under the same goal hands it out, and a pull or look
under another goal gives it up first: the cursor goes back, and the log is cut
to the length it had before the look.
-/

set_option autoImplicit false

namespace GoalLexer

/-- A token that has been looked at and not pulled. -/
structure Lookahead where
  goal : Goal
  token : Token
  /-- Where the cursor stood before the token was scanned. -/
  before : Place
  /-- How many diagnostics there were before the token was scanned. -/
  logged : Nat
  deriving DecidableEq, Repr

structure Lexer where
  name : String
  options : Options
  cursor : Cursor
  log : DiagnosticLog
  lookahead : Option Lookahead
  trace : Array Event
  deriving DecidableEq

namespace Lexer

/-- A lexer at the beginning of a source. -/
def create (name source : String) (options : Options) : Lexer where
  name := name
  options := options
  cursor := .ofText source
  log := {}
  lookahead := none
  trace := #[.created name (Utf8.length source.toList) options.strictMode options.captureTrivia]

/-- The place of the next character not yet pulled. A token looked at counts as
not pulled. -/
def place (lx : Lexer) : Place :=
  match lx.lookahead with
  | some ahead => ahead.before
  | none => lx.cursor.place

def reserved (lx : Lexer) : ReservedWords := ⟨lx.options.strictMode⟩

def sourceFile (lx : Lexer) : SourceFile := ⟨lx.name, lx.cursor.source⟩

/-- Lets the caller change the log. -/
def mapLog (lx : Lexer) (f : DiagnosticLog → DiagnosticLog) : Lexer :=
  { lx with log := f lx.log }

/-- The diagnostic for an error that covers a span. -/
def diagnosticFor (lx : Lexer) (error : LexError) (span : Span) : Diagnostic :=
  let d : Diagnostic :=
    { severity := .error, message := error.message, span, code := some error.code }
  match Snippet.ofSpan lx.sourceFile span with
  | .ok snippet => d.withSnippet snippet
  | .error _ => d

/-- Records an error that covers the text from `start` up to the cursor. -/
def report (lx : Lexer) (start : Place) (error : LexError) : Except Fault Lexer := do
  let span ← Span.between start.offset lx.cursor.place.offset start.line start.column
  return { lx with
    log := lx.log.emit (lx.diagnosticFor error span)
    trace := lx.trace.push (.lexicalError lx.name span.line span.column error) }

/-- Scans one token, be it trivia or not. -/
def scanOne (lx : Lexer) (goal : Goal) : Except Fault (Token × Lexer) := do
  let marked := lx.cursor.setMark
  let start := marked.place
  let piece := Piece.scan lx.options goal start.rest
  let cursor ← marked.advanceBy piece.lexeme.length
  let lexeme ← cursor.lexeme
  let position : Position := ⟨lx.name, start.offset, start.line, start.column⟩
  let moved := { lx with cursor }
  match piece.outcome with
  | .ok kind => return ({ kind, lexeme, position }, moved)
  | .error error =>
      let reported ← moved.report start error
      return (.ofError error lexeme position, reported)

/-- Leaves a trace of a token that is handed out. -/
def traceToken (lx : Lexer) (goal : Goal) (token : Token) : Lexer :=
  { lx with trace := lx.trace.push (.token token.kind token.position.offset goal) }

/-- Scans up to the first token that is wanted, and leaves a trace of it. Each
token skipped uses up a character of `fuel`. -/
def scanAux (goal : Goal) : (fuel : List Char) → Lexer → Except Fault (Token × Lexer)
  | [], lx => do
      let (token, lx) ← lx.scanOne goal
      return (token, lx.traceToken goal token)
  | _ :: fuel, lx => do
      let (token, lx) ← lx.scanOne goal
      if token.kind.isTrivia && !lx.options.captureTrivia then scanAux goal fuel lx
      else return (token, lx.traceToken goal token)

/-- Scans the next token that is wanted. Trivia are never empty, so the unread
text is fuel enough. -/
def scan (lx : Lexer) (goal : Goal) : Except Fault (Token × Lexer) :=
  scanAux goal lx.cursor.place.rest lx

/-- Gives up a token looked at. -/
def discard (lx : Lexer) (ahead : Lookahead) : Lexer :=
  { lx with
    cursor := lx.cursor.restore ahead.before
    log := lx.log.truncate ahead.logged
    lookahead := none
    trace := lx.trace.push (.discarded ahead.goal) }

/-- Pulls the next token under a goal. -/
def next (lx : Lexer) (goal : Goal) : Except Fault (Token × Lexer) :=
  match lx.lookahead with
  | some ahead =>
      if ahead.goal = goal then .ok (ahead.token, { lx with lookahead := none })
      else (lx.discard ahead).scan goal
  | none => lx.scan goal

/-- Looks at the next token when none has been looked at. -/
def look (lx : Lexer) (goal : Goal) : Except Fault (Token × Lexer) := do
  let (token, scanned) ← lx.scan goal
  let ahead : Lookahead := ⟨goal, token, lx.cursor.place, lx.log.size⟩
  return (token, { scanned with lookahead := some ahead })

/-- Looks at the next token under a goal without pulling it. -/
def peek (lx : Lexer) (goal : Goal) : Except Fault (Token × Lexer) :=
  match lx.lookahead with
  | some ahead => if ahead.goal = goal then .ok (ahead.token, lx) else (lx.discard ahead).look goal
  | none => lx.look goal

/-- Pulls up to `fuel` tokens under a goal, until the end of the input. -/
def tokenizeAux (goal : Goal) : (fuel : Nat) → Lexer → Except Fault (List Token × Lexer)
  | 0, lx => .ok ([], lx)
  | fuel + 1, lx => do
      let (token, lx) ← lx.next goal
      if token.isEndOfInput then return ([], lx)
      else
        let (tokens, lx) ← tokenizeAux goal fuel lx
        return (token :: tokens, lx)

/-- Pulls all the remaining tokens under a goal, without the end of the input.
Every other token takes at least one character. -/
def tokenize (lx : Lexer) (goal : Goal) : Except Fault (List Token × Lexer) :=
  tokenizeAux goal (lx.place.rest.length + 1) lx

/-- Pulls the next token where a slash divides; nothing at the end of the input. -/
def nextItem (lx : Lexer) : Except Fault (Option Token × Lexer) := do
  let (token, lx) ← lx.next .div
  return (if token.isEndOfInput then none else some token, lx)

/-- The tokens that `nextItem` has still to give. -/
def items (lx : Lexer) : Except Fault (List Token × Lexer) := lx.tokenize .div

end Lexer

end GoalLexer
