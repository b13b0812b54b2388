import GoalLexer.Lexer
import GoalLexer.Proofs.Pieces
import GoalLexer.Proofs.Places

/-!
# Readers

A reader is a lexer without look-ahead, history, trace or faults: a name, the
options, the source, a place in it, and the diagnostics so far. The next token
under a goal and the reader after it are plain functions, `Reader.token` and
`Reader.after`.

`Lexer.reader` forgets what a lexer holds besides. A lexer is `Coherent` when its
reader stands in the source with room for the counters, and a token looked at is
the one its reader would give. Then every operation of the lexer succeeds and does
what the reader does:

* `Coherent.next`: a pull gives the reader's token and moves the reader on;
* `Coherent.peek`: a look gives the reader's token and leaves the reader alone.

What holds of all runs of a lexer is then shown of readers.
-/

set_option autoImplicit false

namespace GoalLexer

/-! ## The token at a place -/

namespace Piece

def kind (piece : Piece) : TokenKind :=
  match piece.outcome with
  | .ok kind => kind
  | .error _ => .error

def error? (piece : Piece) : Option LexError :=
  match piece.outcome with
  | .ok _ => none
  | .error error => some error

end Piece

namespace Token

/-- The bytes that a token covers. -/
def span (t : Token) : Span :=
  ⟨t.position.offset, t.position.offset + t.lexeme.utf8ByteSize, t.position.line,
    t.position.column, Nat.le_add_right _ _⟩

/-- The diagnostic for a token, if it carries an error. -/
def report (file : SourceFile) (t : Token) : Option Diagnostic :=
  t.error.map fun error =>
    { severity := .error
      message := error.message
      span := t.span
      code := some error.code
      snippets := (Snippet.ofSpan file t.span).toOption.toList }

end Token

namespace Place

variable (options : Options) (goal : Goal)

/-- The piece that starts at a place. -/
def piece (p : Place) : Piece := Piece.scan options goal p.rest

/-- The token that starts at a place of a named source. -/
def token (name : String) (p : Place) : Token :=
  ⟨(p.piece options goal).kind, String.ofList (p.piece options goal).lexeme,
    ⟨name, p.offset, p.line, p.column⟩, (p.piece options goal).error?⟩

/-- The place behind the token that starts at a place. -/
def past (p : Place) : Place := p.skip (p.piece options goal).lexeme.length

/-- Whether the token at a place is trivia to be passed over. -/
def isSkipped (p : Place) : Bool :=
  (p.piece options goal).kind.isTrivia && !options.captureTrivia

def wantedAux : (fuel : List Char) → Place → Place
  | [], p => p
  | _ :: fuel, p => if p.isSkipped options goal then wantedAux fuel (p.past options goal) else p

/-- The first place from here on whose token is wanted. -/
def wanted (p : Place) : Place := wantedAux options goal p.rest p

/-- A token and what it leaves are as long as what it starts from. -/
theorem past_rest_length (p : Place) :
    (p.past options goal).rest.length + (p.piece options goal).lexeme.length =
      p.rest.length := by
  have fits := (Piece.scan_isPrefix options goal p.rest).length_le
  rw [past, skip_rest, List.length_drop, piece]
  omega

theorem past_rest_length_lt {p : Place} (unread : p.rest ≠ []) :
    (p.past options goal).rest.length < p.rest.length := by
  have nonempty := List.length_pos_iff.2 (Piece.scan_takes options goal unread).nonempty
  have whole := p.past_rest_length options goal
  rw [piece] at whole
  omega

/-- Only text is passed over. -/
theorem rest_ne_nil_of_isSkipped {p : Place} (skipped : p.isSkipped options goal = true) :
    p.rest ≠ [] := by
  intro finished
  simp [isSkipped, piece, finished, Piece.kind, TokenKind.isTrivia] at skipped

/-- Any fuel as long as the unread text does. -/
theorem wantedAux_sufficient {fuel other : List Char} {p : Place}
    (enough : p.rest.length ≤ fuel.length) (otherEnough : p.rest.length ≤ other.length) :
    wantedAux options goal fuel p = wantedAux options goal other p := by
  induction fuel generalizing other p with
  | nil =>
      have finished : p.rest = [] := List.length_eq_zero_iff.1 (Nat.le_zero.1 enough)
      have kept : ¬ p.isSkipped options goal = true :=
        fun skipped => rest_ne_nil_of_isSkipped options goal skipped finished
      cases other with
      | nil => rfl
      | cons d other => rw [wantedAux, wantedAux, if_neg kept]
  | cons c fuel ih =>
      by_cases skipped : p.isSkipped options goal = true
      · have unread := rest_ne_nil_of_isSkipped options goal skipped
        have shorter := past_rest_length_lt options goal unread
        cases other with
        | nil => exact absurd (List.length_eq_zero_iff.1 (Nat.le_zero.1 otherEnough)) unread
        | cons d other =>
            rw [List.length_cons] at enough otherEnough
            rw [wantedAux, wantedAux, if_pos skipped, if_pos skipped]
            exact ih (by omega) (by omega)
      · cases other with
        | nil => rw [wantedAux, wantedAux, if_neg skipped]
        | cons d other => rw [wantedAux, wantedAux, if_neg skipped, if_neg skipped]

theorem wanted_of_isSkipped {p : Place} (skipped : p.isSkipped options goal = true) :
    p.wanted options goal = (p.past options goal).wanted options goal := by
  have shorter := past_rest_length_lt options goal
    (rest_ne_nil_of_isSkipped options goal skipped)
  unfold wanted
  cases unread : p.rest with
  | nil => exact absurd unread (rest_ne_nil_of_isSkipped options goal skipped)
  | cons c rest =>
      rw [unread, List.length_cons] at shorter
      rw [wantedAux, if_pos skipped]
      exact wantedAux_sufficient options goal (by omega) (Nat.le_refl _)

theorem wanted_of_not_isSkipped {p : Place} (kept : p.isSkipped options goal = false) :
    p.wanted options goal = p := by
  unfold wanted
  cases p.rest with
  | nil => rfl
  | cons c rest => rw [wantedAux, kept]; rfl

/-- Induction along the trivia passed over: a property of places is shown for
places whose token is wanted, and carried back over one piece of trivia. -/
theorem wanted_induction {motive : Place → Prop} (p : Place)
    (kept : ∀ p, p.isSkipped options goal = false → motive p)
    (skipped : ∀ p, p.isSkipped options goal = true → motive (p.past options goal) → motive p) :
    motive p := by
  induction size : p.rest.length using Nat.strongRecOn generalizing p with
  | ind n ih =>
      cases skip : p.isSkipped options goal with
      | false => exact kept p skip
      | true =>
          have shorter := past_rest_length_lt options goal
            (rest_ne_nil_of_isSkipped options goal skip)
          exact skipped p skip (ih _ (size ▸ shorter) _ rfl)

/-- Two ways to read that skip alike, and go past what they skip alike, want the same. -/
theorem wanted_eq_of_skips_alike {other : Options} {under : Goal}
    (skips : ∀ p : Place, p.isSkipped other under = p.isSkipped options goal)
    (goes : ∀ p : Place, p.isSkipped options goal = true →
      p.past other under = p.past options goal) (p : Place) :
    p.wanted other under = p.wanted options goal := by
  induction p using wanted_induction options goal with
  | kept p kept =>
      have keptToo := (skips p).trans kept
      rw [wanted_of_not_isSkipped options goal kept, wanted_of_not_isSkipped other under keptToo]
  | skipped p skipped ih =>
      have skippedToo := (skips p).trans skipped
      rw [wanted_of_isSkipped options goal skipped, wanted_of_isSkipped other under skippedToo,
        goes p skipped, ih]

theorem token_lexeme (name : String) (p : Place) :
    (p.token options goal name).lexeme.toList = (p.piece options goal).lexeme := by
  simp [token]

theorem token_lexeme_isPrefix (name : String) (p : Place) :
    (p.token options goal name).lexeme.toList <+: p.rest := by
  rw [token_lexeme]
  exact Piece.scan_isPrefix options goal p.rest

/-- The token at a place and the text behind it are the unread text. -/
theorem token_append_past (name : String) (p : Place) :
    p.rest = (p.token options goal name).lexeme.toList ++ (p.past options goal).rest := by
  have whole := Piece.take_scan_length options goal p.rest
  rw [token_lexeme, past, skip_rest, piece]
  conv => rhs; lhs; rw [← whole]
  exact (List.take_append_drop _ _).symm

theorem past_offset (name : String) (p : Place) :
    (p.past options goal).offset =
      p.offset + (p.token options goal name).lexeme.utf8ByteSize := by
  have whole := Piece.take_scan_length options goal p.rest
  rw [past, skip_offset, piece, whole, token, Utf8.length_ofList]
  rfl

theorem isEndOfInput_iff (name : String) (p : Place) :
    (p.token options goal name).isEndOfInput = true ↔ p.rest = [] := by
  rw [← Piece.scan_endOfInput_iff options goal p.rest]
  unfold Token.isEndOfInput token Piece.kind piece
  cases outcome : (Piece.scan options goal p.rest).outcome with
  | ok kind => simp
  | error error => simp

theorem isError_token {options : Options} {goal : Goal} {name : String} {p : Place} :
    (p.token options goal name).isError = (p.token options goal name).error.isSome := by
  have caused := Piece.scan_outcome_ne_error options goal p.rest
  unfold Token.isError token Piece.kind Piece.error? piece
  cases outcome : (Piece.scan options goal p.rest).outcome with
  | ok kind =>
      rw [outcome] at caused
      simpa using caused
  | error error => rfl

theorem report_of_not_isError {options : Options} {goal : Goal} {name : String} {p : Place}
    (file : SourceFile) (wellFormed : (p.token options goal name).isError = false) :
    (p.token options goal name).report file = none := by
  have noCause : (p.token options goal name).error = none := by
    rw [isError_token] at wellFormed
    simpa using wellFormed
  rw [Token.report, noCause]
  rfl

theorem HasRoom.past {p : Place} (room : p.HasRoom) : (p.past options goal).HasRoom :=
  room.skip _

theorem IsIn.past {text : List Char} {p : Place} (inside : p.IsIn text) :
    (p.past options goal).IsIn text :=
  inside.skip _

/-- The wanted place lies ahead. -/
theorem exists_wanted_eq_skip (p : Place) : ∃ n, p.wanted options goal = p.skip n := by
  induction p using wanted_induction options goal with
  | kept p kept => exact ⟨0, wanted_of_not_isSkipped options goal kept⟩
  | skipped p skipped ih =>
      obtain ⟨n, ahead⟩ := ih
      refine ⟨(p.piece options goal).lexeme.length + n, ?_⟩
      rw [wanted_of_isSkipped options goal skipped, ahead, skip_add]
      rfl

theorem HasRoom.wanted {p : Place} (room : p.HasRoom) : (p.wanted options goal).HasRoom := by
  obtain ⟨n, ahead⟩ := p.exists_wanted_eq_skip options goal
  rw [ahead]
  exact room.skip n

theorem IsIn.wanted {text : List Char} {p : Place} (inside : p.IsIn text) :
    (p.wanted options goal).IsIn text := by
  obtain ⟨n, ahead⟩ := p.exists_wanted_eq_skip options goal
  rw [ahead]
  exact inside.skip n

theorem wanted_rest_length_le (p : Place) :
    (p.wanted options goal).rest.length ≤ p.rest.length := by
  obtain ⟨n, ahead⟩ := p.exists_wanted_eq_skip options goal
  rw [ahead, skip_rest, List.length_drop]
  omega

end Place

namespace DiagnosticLog

/-- The log with one diagnostic more, if there is one. -/
def record (log : DiagnosticLog) (d : Option Diagnostic) : DiagnosticLog :=
  match d with
  | none => log
  | some d => log.emit d

@[simp] theorem toList_record (log : DiagnosticLog) (d : Option Diagnostic) :
    (log.record d).toList = log.toList ++ d.toList := by
  cases d with
  | none => simp [record]
  | some d => simp [record]

theorem ext {log other : DiagnosticLog} (same : log.toList = other.toList) : log = other := by
  cases log
  cases other
  exact congrArg DiagnosticLog.mk (Array.toList_inj.1 same)

/-- Cutting back to the earlier length takes a record away. -/
theorem truncate_record (log : DiagnosticLog) (d : Option Diagnostic) :
    (log.record d).truncate log.size = log := by
  apply ext
  have length : log.toList.length = log.size := by simp [toList, size]
  rw [toList_truncate, toList_record, ← length, List.take_left]

end DiagnosticLog

/-! ## Scans as equations -/

/-- What a computation gives, its parts give. -/
theorem exists_of_bind_eq_ok {α β : Type} {value : Except Fault α} {next : α → Except Fault β}
    {result : β} (run : value >>= next = .ok result) :
    ∃ produced, value = .ok produced ∧ next produced = .ok result := by
  cases value with
  | error fault => cases run
  | ok produced => exact ⟨produced, rfl, run⟩

namespace Lexer

/-- The lexer at another place of its source. -/
def moveTo (lx : Lexer) (p : Place) : Lexer := { lx with cursor := lx.cursor.restore p }

/-- The event for the error of the token at the cursor, if it carries one. -/
def errorEvent (lx : Lexer) (goal : Goal) : Option Event :=
  (lx.cursor.place.piece lx.options goal).error?.map fun error =>
    .lexicalError lx.name lx.cursor.place.line lx.cursor.place.column error

/-- The lexer behind the token at its cursor, be it trivia or not. -/
def took (lx : Lexer) (goal : Goal) : Lexer :=
  { lx with
    cursor := lx.cursor.setMark.readBy (lx.cursor.place.piece lx.options goal).lexeme.length
    log := lx.log.record ((lx.cursor.place.token lx.options goal lx.name).report lx.sourceFile)
    trace := lx.trace ++ (lx.errorEvent goal).toList }

theorem diagnosticFor_eq (lx : Lexer) (error : LexError) (span : Span) :
    lx.diagnosticFor error span =
      { severity := .error
        message := error.message
        span
        code := some error.code
        snippets := (Snippet.ofSpan lx.sourceFile span).toOption.toList } := by
  unfold diagnosticFor
  cases Snippet.ofSpan lx.sourceFile span with
  | ok snippet => rfl
  | error cause => rfl

/-- The span of a report covers what the cursor passed since `start`. -/
theorem report_eq (lx : Lexer) (start : Place) (error : LexError) {size : Nat}
    (passed : lx.cursor.place.offset = start.offset + size) :
    lx.report start error = .ok
      { lx with
        log := lx.log.emit (lx.diagnosticFor error
          ⟨start.offset, start.offset + size, start.line, start.column, Nat.le_add_right _ _⟩)
        trace := lx.trace.push (.lexicalError lx.name start.line start.column error) } := by
  have ordered : start.offset ≤ start.offset + size := Nat.le_add_right _ _
  simp only [report, passed, Span.between, dif_pos ordered]
  rfl

/-- Scanning gives the token at the cursor, if its characters can be read. -/
theorem scanOne_of_advanceBy {lx : Lexer} {goal : Goal} {moved : Cursor}
    (advanced : lx.cursor.setMark.advanceBy
      (lx.cursor.place.piece lx.options goal).lexeme.length = .ok moved) :
    lx.scanOne goal = .ok (lx.cursor.place.token lx.options goal lx.name, lx.took goal) := by
  have read := Cursor.eq_readBy_of_advanceBy advanced
  subst read
  rw [Place.piece] at advanced
  have whole := Piece.take_scan_length lx.options goal lx.cursor.place.rest
  have lexeme := Cursor.lexeme_readBy_setMark lx.cursor
    (Piece.scan lx.options goal lx.cursor.place.rest).lexeme.length
  rw [whole] at lexeme
  have passed : (lx.cursor.setMark.readBy
      (Piece.scan lx.options goal lx.cursor.place.rest).lexeme.length).place.offset =
      lx.cursor.place.offset +
        (String.ofList (Piece.scan lx.options goal lx.cursor.place.rest).lexeme).utf8ByteSize := by
    rw [Cursor.readBy_place, Cursor.setMark_place, Place.skip_offset, whole, Utf8.length_ofList]
  unfold scanOne
  simp only [Cursor.setMark_place, advanced, bind, Except.bind, lexeme]
  unfold took errorEvent Place.token Place.piece Token.report Piece.error? Piece.kind
  cases outcome : (Piece.scan lx.options goal lx.cursor.place.rest).outcome with
  | ok kind => simp [DiagnosticLog.record, pure, Except.pure]
  | error error =>
      simp only [report_eq ⟨lx.name, lx.options, _, lx.log, lx.lookahead, lx.trace⟩ lx.cursor.place
        error passed, diagnosticFor_eq]
      simp [DiagnosticLog.record, pure, Except.pure, Token.ofError, Token.span, sourceFile]

/-- **One token.** With room, scanning gives the token at the cursor. -/
theorem scanOne_eq {lx : Lexer} (room : lx.cursor.place.HasRoom) (goal : Goal) :
    lx.scanOne goal = .ok (lx.cursor.place.token lx.options goal lx.name, lx.took goal) :=
  scanOne_of_advanceBy (Cursor.advanceBy_eq_readBy (c := lx.cursor.setMark) room _)

/-- What is scanned without a fault is the token at the cursor. -/
theorem eq_of_scanOne {lx after : Lexer} {goal : Goal} {t : Token}
    (scanned : lx.scanOne goal = .ok (t, after)) :
    t = lx.cursor.place.token lx.options goal lx.name ∧ after = lx.took goal := by
  cases advanced : lx.cursor.setMark.advanceBy
      (lx.cursor.place.piece lx.options goal).lexeme.length with
  | error fault =>
      rw [Place.piece] at advanced
      simp only [scanOne, Cursor.setMark_place, advanced, bind, Except.bind] at scanned
      cases scanned
  | ok moved =>
      rw [scanOne_of_advanceBy advanced] at scanned
      cases scanned
      exact ⟨rfl, rfl⟩

/-- The lexer after the next wanted token under a goal, which leaves a trace. -/
def scanned (lx : Lexer) (goal : Goal) : Lexer :=
  let p := lx.cursor.place.wanted lx.options goal
  ((lx.moveTo p).took goal).traceToken goal (p.token lx.options goal lx.name)

/-- Trivia leave nothing behind but the place. -/
theorem moveTo_took_of_isSkipped {lx : Lexer} {goal : Goal}
    (skipped : lx.cursor.place.isSkipped lx.options goal = true) (p : Place) :
    ((lx.took goal).moveTo p).took goal = (lx.moveTo p).took goal := by
  have noError : (lx.cursor.place.piece lx.options goal).error? = none := by
    unfold Place.isSkipped Piece.kind at skipped
    unfold Piece.error?
    cases outcome : (lx.cursor.place.piece lx.options goal).outcome with
    | ok kind => rfl
    | error error => simp [outcome, TokenKind.isTrivia] at skipped
  have sameLog : (lx.took goal).log = lx.log := by
    simp [took, Place.token, Token.report, noError, DiagnosticLog.record]
  have sameTrace : (lx.took goal).trace = lx.trace := by
    simp [took, errorEvent, noError]
  have moved : (lx.took goal).moveTo p =
      { lx.moveTo p with
        cursor := { (lx.moveTo p).cursor with mark := lx.cursor.place } } := by
    simp [took, moveTo, Cursor.restore] at sameLog sameTrace ⊢
    exact ⟨sameLog, sameTrace⟩
  rw [moved]
  rfl

theorem moveTo_self_took (lx : Lexer) (goal : Goal) :
    (lx.moveTo lx.cursor.place).took goal = lx.took goal := rfl

@[simp] theorem took_place (lx : Lexer) (goal : Goal) :
    (lx.took goal).cursor.place = lx.cursor.place.past lx.options goal := by
  simp [took, Place.past]

theorem scanAux_eq {goal : Goal} (fuel : List Char) {lx : Lexer}
    (room : lx.cursor.place.HasRoom) :
    scanAux goal fuel lx =
      let p := Place.wantedAux lx.options goal fuel lx.cursor.place
      .ok (p.token lx.options goal lx.name,
        ((lx.moveTo p).took goal).traceToken goal (p.token lx.options goal lx.name)) := by
  induction fuel generalizing lx with
  | nil =>
      simp only [scanAux, scanOne_eq room, bind, Except.bind, Place.wantedAux, moveTo_self_took]
      rfl
  | cons c fuel ih =>
      have next : (lx.took goal).cursor.place.HasRoom := by
        rw [took_place]
        exact room.past lx.options goal
      simp only [scanAux, scanOne_eq room, bind, Except.bind, Place.wantedAux]
      cases skipped : lx.cursor.place.isSkipped lx.options goal with
      | true =>
          have passes : ((lx.cursor.place.token lx.options goal lx.name).kind.isTrivia &&
              !(lx.took goal).options.captureTrivia) = true := skipped
          rw [if_pos passes, ih next, took_place]
          simp only [moveTo_took_of_isSkipped skipped, if_true]
          rfl
      | false =>
          have stays : ((lx.cursor.place.token lx.options goal lx.name).kind.isTrivia &&
              !(lx.took goal).options.captureTrivia) = false := skipped
          rw [stays]
          rfl

/-- **The next wanted token.** With room, scanning passes over trivia and gives
the token at the first wanted place. -/
theorem scan_eq {lx : Lexer} (room : lx.cursor.place.HasRoom) (goal : Goal) :
    lx.scan goal =
      .ok ((lx.cursor.place.wanted lx.options goal).token lx.options goal lx.name,
        lx.scanned goal) :=
  scanAux_eq _ room

end Lexer

/-! ## Readers -/

structure Reader where
  name : String
  options : Options
  source : String
  place : Place
  log : DiagnosticLog

namespace Reader

def file (r : Reader) : SourceFile := ⟨r.name, r.source⟩

/-- Where the next wanted token starts. -/
def next (r : Reader) (goal : Goal) : Place := r.place.wanted r.options goal

def token (r : Reader) (goal : Goal) : Token := (r.next goal).token r.options goal r.name

/-- The reader behind the next wanted token. -/
def after (r : Reader) (goal : Goal) : Reader :=
  { r with
    place := (r.next goal).past r.options goal
    log := r.log.record ((r.token goal).report r.file) }

theorem after_place (r : Reader) (goal : Goal) :
    (r.after goal).place = (r.next goal).past r.options goal := rfl

theorem next_of_captures {r : Reader} (captures : r.options.captureTrivia = true) (goal : Goal) :
    r.next goal = r.place :=
  Place.wanted_of_not_isSkipped r.options goal (by simp [Place.isSkipped, captures])

/-- The reader stands in its source, with room for the counters. -/
structure Sound (r : Reader) : Prop where
  inside : r.place.IsIn r.source.toList
  room : r.place.HasRoom

theorem Sound.after {r : Reader} (sound : r.Sound) (goal : Goal) : (r.after goal).Sound where
  inside := (sound.inside.wanted r.options goal).past r.options goal
  room := (sound.room.wanted r.options goal).past r.options goal

end Reader

namespace Lexer

/-- What is left of a lexer without its look-ahead: a token looked at counts as
not pulled, and its diagnostic as not recorded. -/
def reader (lx : Lexer) : Reader :=
  match lx.lookahead with
  | none => ⟨lx.name, lx.options, lx.cursor.source, lx.cursor.place, lx.log⟩
  | some ahead =>
      ⟨lx.name, lx.options, lx.cursor.source, ahead.before, lx.log.truncate ahead.logged⟩

/-- The reader stands in the source, and a token looked at is the reader's next
one, with the cursor and the log behind it. -/
structure Coherent (lx : Lexer) : Prop where
  sound : lx.reader.Sound
  ahead : ∀ ahead, lx.lookahead = some ahead →
    ahead.token = lx.reader.token ahead.goal ∧
      Lexer.reader { lx with lookahead := none } = lx.reader.after ahead.goal

theorem reader_place (lx : Lexer) : lx.reader.place = lx.place := by
  unfold reader place
  cases lx.lookahead with
  | none => rfl
  | some ahead => rfl

theorem reader_of_none {lx : Lexer} (free : lx.lookahead = none) :
    lx.reader = ⟨lx.name, lx.options, lx.cursor.source, lx.cursor.place, lx.log⟩ := by
  unfold reader
  rw [free]

theorem log_of_none {lx : Lexer} (free : lx.lookahead = none) : lx.log = lx.reader.log := by
  rw [reader_of_none free]

theorem reader_of_some {lx : Lexer} {ahead : Lookahead} (held : lx.lookahead = some ahead) :
    lx.reader =
      ⟨lx.name, lx.options, lx.cursor.source, ahead.before, lx.log.truncate ahead.logged⟩ := by
  unfold reader
  rw [held]

/-- Giving up a look-ahead leaves the reader alone. -/
theorem reader_discard {lx : Lexer} {ahead : Lookahead} (held : lx.lookahead = some ahead) :
    (lx.discard ahead).reader = lx.reader := by
  rw [reader_of_none rfl, reader_of_some held]
  rfl

theorem coherent_of_none {lx : Lexer} (free : lx.lookahead = none) (sound : lx.reader.Sound) :
    lx.Coherent where
  sound := sound
  ahead := by
    intro ahead held
    rw [free] at held
    cases held

theorem create_coherent (name : String) {source : String} (options : Options)
    (short : source.utf8ByteSize < counterBound - 1) : (create name source options).Coherent :=
  coherent_of_none rfl ⟨Place.isIn_start _, Place.hasRoom_start short⟩

/-- A scan without look-ahead moves the reader on. -/
theorem reader_scanned {lx : Lexer} (free : lx.lookahead = none) (goal : Goal) :
    (lx.scanned goal).reader = lx.reader.after goal := by
  have free' : (lx.scanned goal).lookahead = none := free
  rw [reader_of_none free', reader_of_none free]
  simp [scanned, took, moveTo, traceToken, Cursor.restore, sourceFile, Reader.after, Reader.next,
    Reader.token, Reader.file, Place.past]

/-- A scan without look-ahead gives the reader's token. -/
theorem scan_of_none {lx : Lexer} (free : lx.lookahead = none) (sound : lx.reader.Sound)
    (goal : Goal) : lx.scan goal = .ok (lx.reader.token goal, lx.scanned goal) := by
  have room : lx.cursor.place.HasRoom := by
    have room := sound.room
    rwa [reader_of_none free] at room
  rw [scan_eq room, reader_of_none free]
  rfl

namespace Coherent

/-- **A pull** gives the reader's token, moves the reader on, and leaves no
look-ahead. -/
theorem next {lx : Lexer} (coherent : lx.Coherent) (goal : Goal) :
    ∃ after, lx.next goal = .ok (lx.reader.token goal, after) ∧ after.Coherent ∧
      after.reader = lx.reader.after goal ∧ after.lookahead = none := by
  have sound := coherent.sound.after goal
  cases held : lx.lookahead with
  | none =>
      have moved := reader_scanned held goal
      refine ⟨lx.scanned goal, ?_, ?_, moved, held⟩
      · rw [Lexer.next, held]
        exact scan_of_none held coherent.sound goal
      · exact coherent_of_none held (moved ▸ sound)
  | some ahead =>
      obtain ⟨sameToken, moved⟩ := coherent.ahead ahead held
      by_cases same : ahead.goal = goal
      · subst same
        refine ⟨{ lx with lookahead := none }, ?_, ?_, moved, rfl⟩
        · simp only [Lexer.next, held, if_true, sameToken]
        · exact coherent_of_none rfl (moved ▸ sound)
      · -- the look-ahead is given up first, which leaves the reader where it was
        have back := reader_discard held
        have free : (lx.discard ahead).lookahead = none := rfl
        have moved := reader_scanned free goal
        rw [back] at moved
        refine ⟨(lx.discard ahead).scanned goal, ?_, ?_, moved, free⟩
        · simp only [Lexer.next, held, if_neg same]
          rw [← back]
          exact scan_of_none free (back ▸ coherent.sound) goal
        · exact coherent_of_none free (moved ▸ sound)

theorem look {lx : Lexer} (free : lx.lookahead = none) (sound : lx.reader.Sound) (goal : Goal) :
    ∃ after, lx.look goal = .ok (lx.reader.token goal, after) ∧ after.Coherent ∧
      after.reader = lx.reader ∧ ∃ ahead, after.lookahead = some ahead ∧ ahead.goal = goal := by
  have moved := reader_scanned free goal
  have here := reader_of_none free
  refine ⟨{ lx.scanned goal with
    lookahead := some ⟨goal, lx.reader.token goal, lx.cursor.place, lx.log.size⟩ }, ?_, ?_⟩
  · simp only [Lexer.look, scan_of_none free sound, bind, Except.bind]
    rfl
  · have cut : (lx.scanned goal).log.truncate lx.log.size = lx.log :=
      DiagnosticLog.truncate_record lx.log _
    have back : Lexer.reader { lx.scanned goal with
        lookahead := some ⟨goal, lx.reader.token goal, lx.cursor.place, lx.log.size⟩ } =
        lx.reader := by
      rw [reader_of_some rfl, here, cut]
      simp [scanned, took, moveTo, traceToken, Cursor.restore]
    refine ⟨⟨back ▸ sound, ?_⟩, back, _, rfl, rfl⟩
    rintro _ ⟨⟩
    rw [back]
    have freed : (lx.scanned goal).reader = _ := reader_of_none free
    exact ⟨rfl, (reader_of_none rfl).trans (freed.symm.trans moved)⟩

/-- **A look** gives the reader's token, leaves the reader alone, and keeps a
look-ahead under its goal. -/
theorem peek {lx : Lexer} (coherent : lx.Coherent) (goal : Goal) :
    ∃ after, lx.peek goal = .ok (lx.reader.token goal, after) ∧ after.Coherent ∧
      after.reader = lx.reader ∧ ∃ ahead, after.lookahead = some ahead ∧ ahead.goal = goal := by
  cases held : lx.lookahead with
  | none =>
      rw [Lexer.peek, held]
      exact look held coherent.sound goal
  | some ahead =>
      simp only [Lexer.peek, held]
      by_cases same : ahead.goal = goal
      · subst same
        refine ⟨lx, ?_, coherent, rfl, ahead, held, rfl⟩
        rw [if_pos rfl, (coherent.ahead ahead held).1]
      · have back := reader_discard held
        rw [if_neg same, ← back]
        exact look rfl (back ▸ coherent.sound) goal

/-- The log of a lexer is that of its reader, behind the token looked at. -/
theorem log_of_some {lx : Lexer} (coherent : lx.Coherent) {ahead : Lookahead}
    (held : lx.lookahead = some ahead) : lx.log = (lx.reader.after ahead.goal).log := by
  rw [← (coherent.ahead ahead held).2]
  rfl

end Coherent

end Lexer

end GoalLexer
