import GoalLexer.Proofs.Commands
import GoalLexer.Proofs.Lookups

/-!
# No input makes a lexer fault

`Lexer.Reachable` holds of every state that a lexer passes through, also those within
an operation: behind trivia, with a look-ahead just given up, or after its caller has
changed the log. What keeps such a state safe is little: the cursor and the place it
may go back to lie in the source (`Lexer.Safe`, `Reachable.safe`). The mark is left
out. A look-ahead that is given up takes the cursor back behind the mark, but every
scan sets the mark before it cuts out a lexeme.

From there

* `Safe.sliceable`: however many characters are read from the mark on, no counter
  overflows, and the text since the mark can be cut out;
* `Safe.exists_scanOne`: a token is scanned from every reachable state, and its span,
  its lexeme and its snippet are all there.

`Lexer.runs_without_fault` adds that the states of every run are reachable and that
the line index is only asked for what it holds.
-/

set_option autoImplicit false

namespace GoalLexer

/-! ## Slices -/

namespace Cursor

/-- The mark is not ahead, and both it and the place lie between two characters of the
source, so that the text since the mark can be cut out. -/
structure Sliceable (c : Cursor) (text : String) : Prop where
  ordered : c.mark.offset ≤ c.place.offset
  mark : Utf8.isBoundary c.source.toList c.mark.offset = true
  place : Utf8.isBoundary c.source.toList c.place.offset = true
  lexeme : c.lexeme = .ok text
  slice : c.sliceFrom c.mark.offset = .ok text

/-- A cursor behind its mark has what it read since cut out. -/
theorem sliceable_of_skip {c : Cursor} (marked : c.mark.IsIn c.source.toList) {n : Nat}
    (ahead : c.place = c.mark.skip n) :
    c.Sliceable (String.ofList (c.mark.rest.take n)) := by
  refine ⟨?_, marked.isBoundary, ?_, lexeme_of_skip ahead, ?_⟩
  · rw [ahead, Place.skip_offset]
    exact Nat.le_add_right _ _
  · rw [ahead]
    exact (marked.skip n).isBoundary
  · obtain ⟨read, text, size⟩ := marked.split
    have cut := Utf8.slice_append read (c.mark.rest.take n) (c.mark.rest.drop n)
    rw [List.take_append_drop, ← text, Utf8.length_append, ← size, ← Place.skip_offset] at cut
    unfold sliceFrom
    rw [ahead, cut]

/-- Whatever is read from the mark on can be cut out. -/
theorem sliceable_readBy {c : Cursor} (inside : c.place.IsIn c.source.toList) (n : Nat) :
    (c.setMark.readBy n).Sliceable (String.ofList (c.place.rest.take n)) := by
  have marked : (c.setMark.readBy n).mark = c.place := by simp
  have same : (c.setMark.readBy n).source = c.source := by simp
  have sliceable : (c.setMark.readBy n).Sliceable
      (String.ofList ((c.setMark.readBy n).mark.rest.take n)) :=
    sliceable_of_skip (by rwa [marked, same]) (by simp)
  rwa [marked] at sliceable

end Cursor

/-! ## Reachable states -/

namespace Lexer

/-- The states that a lexer passes through. A token may be held as looked at that was
scanned from a reachable state; which token it is does not matter. -/
inductive Reachable (name source : String) (options : Options) : Lexer → Prop
  | create : Reachable name source options (create name source options)
  | scanOne {lx after : Lexer} {goal : Goal} {token : Token}
      (reached : Reachable name source options lx)
      (scanned : lx.scanOne goal = .ok (token, after)) : Reachable name source options after
  | traceToken {lx : Lexer} (reached : Reachable name source options lx) (goal : Goal)
      (token : Token) : Reachable name source options (lx.traceToken goal token)
  | hold {lx start : Lexer} (reached : Reachable name source options lx)
      (started : Reachable name source options start) (goal : Goal) (token : Token)
      (logged : Nat) :
      Reachable name source options
        { lx with lookahead := some ⟨goal, token, start.cursor.place, logged⟩ }
  | handOut {lx : Lexer} (reached : Reachable name source options lx) :
      Reachable name source options { lx with lookahead := none }
  | discard {lx : Lexer} {ahead : Lookahead} (reached : Reachable name source options lx)
      (held : lx.lookahead = some ahead) : Reachable name source options (lx.discard ahead)
  | mapLog {lx : Lexer} (reached : Reachable name source options lx)
      (f : DiagnosticLog → DiagnosticLog) : Reachable name source options (lx.mapLog f)

/-- The cursor lies in the source, and so does the place it goes back to. -/
structure Safe (name source : String) (options : Options) (lx : Lexer) : Prop where
  place : lx.cursor.place.IsIn source.toList
  before : ∀ ahead, lx.lookahead = some ahead → ahead.before.IsIn source.toList
  name : lx.name = name
  source : lx.cursor.source = source
  options : lx.options = options

variable {name source : String} {options : Options} {lx : Lexer}

/-- Without look-ahead there is nowhere to go back to. -/
theorem safe_of_none (free : lx.lookahead = none) (place : lx.cursor.place.IsIn source.toList)
    (sameName : lx.name = name) (sameSource : lx.cursor.source = source)
    (sameOptions : lx.options = options) : Safe name source options lx := by
  refine ⟨place, ?_, sameName, sameSource, sameOptions⟩
  intro ahead held
  rw [free] at held
  cases held

namespace Safe

/-- The text after the mark can be cut out, however far it has been read. -/
theorem sliceable (safe : Safe name source options lx)
    (short : source.utf8ByteSize < counterBound - 1) (n : Nat) :
    ∃ cursor text, lx.cursor.setMark.advanceBy n = .ok cursor ∧ cursor.Sliceable text := by
  have inside : lx.cursor.place.IsIn lx.cursor.source.toList := by
    rw [safe.source]
    exact safe.place
  refine ⟨_, _, ?_, Cursor.sliceable_readBy inside n⟩
  exact Cursor.advanceBy_eq_readBy (c := lx.cursor.setMark) (safe.place.hasRoom short) n

/-- **One token** is scanned, be it trivia or not. -/
theorem scanOne (safe : Safe name source options lx)
    (short : source.utf8ByteSize < counterBound - 1) (goal : Goal) :
    lx.scanOne goal = .ok (lx.cursor.place.token lx.options goal lx.name, lx.took goal) ∧
      Safe name source options (lx.took goal) := by
  refine ⟨scanOne_eq (safe.place.hasRoom short) goal, ?_, safe.before, safe.name, ?_,
    safe.options⟩
  · rw [took_place]
    exact safe.place.past lx.options goal
  · simp [took, safe.source]

/-- The token has its lexeme, its span and its snippet. -/
theorem exists_scanOne (safe : Safe name source options lx)
    (short : source.utf8ByteSize < counterBound - 1) (goal : Goal) :
    ∃ token after snippet, lx.scanOne goal = .ok (token, after) ∧
      after.cursor.Sliceable token.lexeme ∧
      Span.between after.cursor.mark.offset after.cursor.place.offset after.cursor.mark.line
        after.cursor.mark.column = .ok token.span ∧
      Snippet.ofSpan ⟨name, source⟩ token.span = .ok snippet := by
  have inside : lx.cursor.place.IsIn lx.cursor.source.toList := by
    rw [safe.source]
    exact safe.place
  have sliceable := Cursor.sliceable_readBy inside
    (lx.cursor.place.piece lx.options goal).lexeme.length
  have whole := Piece.take_scan_length lx.options goal lx.cursor.place.rest
  rw [Place.piece, whole] at sliceable
  have marked : (lx.took goal).cursor.mark = lx.cursor.place := by simp [took]
  obtain ⟨snippet, found⟩ : ∃ s, Snippet.ofSpan ⟨name, source⟩
      (lx.cursor.place.token lx.options goal lx.name).span = .ok s :=
    Snippet.exists_ofSpan safe.place.isBoundary
  refine ⟨_, _, snippet, (safe.scanOne short goal).1, sliceable, ?_, found⟩
  rw [marked, took_place, lx.cursor.place.past_offset lx.options goal lx.name, Span.between,
    dif_pos (Nat.le_add_right _ _)]
  rfl

end Safe

/-- **All reachable states are safe.** -/
theorem Reachable.safe (reached : Reachable name source options lx)
    (short : source.utf8ByteSize < counterBound - 1) : Safe name source options lx := by
  induction reached with
  | create => exact safe_of_none rfl (Place.isIn_start _) rfl rfl rfl
  | @scanOne lx after goal token _ scanned ih =>
      obtain ⟨again, safe⟩ := ih.scanOne short goal
      rw [scanned] at again
      cases again
      exact safe
  | traceToken _ _ _ ih => exact ⟨ih.place, ih.before, ih.name, ih.source, ih.options⟩
  | hold _ _ _ _ _ ih started =>
      refine ⟨ih.place, ?_, ih.name, ih.source, ih.options⟩
      rintro _ ⟨⟩
      exact started.place
  | handOut _ ih => exact safe_of_none rfl ih.place ih.name ih.source ih.options
  | discard _ held ih =>
      exact safe_of_none rfl (ih.before _ held) ih.name ih.source ih.options
  | mapLog _ _ ih => exact ⟨ih.place, ih.before, ih.name, ih.source, ih.options⟩

/-! ## Runs pass through reachable states -/

namespace Reachable

variable {after : Lexer} {goal : Goal} {token : Token}

theorem scanAux (reached : Reachable name source options lx) {fuel : List Char}
    (run : Lexer.scanAux goal fuel lx = .ok (token, after)) :
    Reachable name source options after := by
  induction fuel generalizing lx with
  | nil =>
      obtain ⟨_, scanned, done⟩ := exists_of_bind_eq_ok run
      cases done
      exact (reached.scanOne scanned).traceToken goal _
  | cons c fuel ih =>
      obtain ⟨_, scanned, done⟩ := exists_of_bind_eq_ok run
      dsimp only at done
      split at done
      · exact ih (reached.scanOne scanned) done
      · cases done
        exact (reached.scanOne scanned).traceToken goal _

theorem next (reached : Reachable name source options lx)
    (pulled : lx.next goal = .ok (token, after)) : Reachable name source options after := by
  unfold Lexer.next at pulled
  split at pulled
  · rename_i ahead held
    split at pulled
    · cases pulled
      exact reached.handOut
    · exact (reached.discard held).scanAux pulled
  · exact reached.scanAux pulled

theorem look (reached : Reachable name source options lx)
    (looked : lx.look goal = .ok (token, after)) : Reachable name source options after := by
  obtain ⟨_, scanned, done⟩ := exists_of_bind_eq_ok looked
  cases done
  exact (reached.scanAux scanned).hold reached goal _ lx.log.size

theorem peek (reached : Reachable name source options lx)
    (looked : lx.peek goal = .ok (token, after)) : Reachable name source options after := by
  unfold Lexer.peek at looked
  split at looked
  · rename_i ahead held
    split at looked
    · cases looked
      exact reached
    · exact (reached.discard held).look looked
  · exact reached.look looked

theorem tokenizeAux (reached : Reachable name source options lx) {fuel : Nat}
    {tokens : List Token} (run : Lexer.tokenizeAux goal fuel lx = .ok (tokens, after)) :
    Reachable name source options after := by
  induction fuel generalizing lx tokens with
  | zero =>
      cases run
      exact reached
  | succ fuel ih =>
      obtain ⟨⟨found, behind⟩, pulled, rest⟩ := exists_of_bind_eq_ok run
      dsimp only at rest
      split at rest
      · cases rest
        exact reached.next pulled
      · obtain ⟨⟨more, last⟩, later, done⟩ := exists_of_bind_eq_ok rest
        cases done
        exact ih (reached.next pulled) later

/-- **One request** leads to a reachable state. -/
theorem serve (reached : Reachable name source options lx) {request : Request} {reply : Reply}
    (served : lx.serve request = .ok (reply, after)) : Reachable name source options after := by
  cases request with
  | next goal =>
      obtain ⟨_, pulled, done⟩ := exists_of_bind_eq_ok served
      cases done
      exact reached.next pulled
  | peek goal =>
      obtain ⟨_, looked, done⟩ := exists_of_bind_eq_ok served
      cases done
      exact reached.peek looked
  | tokenize goal =>
      obtain ⟨_, run, done⟩ := exists_of_bind_eq_ok served
      cases done
      exact reached.tokenizeAux run
  | item =>
      obtain ⟨_, given, done⟩ := exists_of_bind_eq_ok served
      obtain ⟨_, pulled, chosen⟩ := exists_of_bind_eq_ok given
      cases chosen
      cases done
      exact reached.next pulled

theorem obey (reached : Reachable name source options lx) {command : Command}
    {reply : Option Reply} (obeyed : lx.obey command = .ok (reply, after)) :
    Reachable name source options after := by
  cases command with
  | ask request =>
      obtain ⟨_, served, done⟩ := exists_of_bind_eq_ok obeyed
      cases done
      exact reached.serve served
  | emit d =>
      cases obeyed
      exact reached.mapLog _
  | truncate n =>
      cases obeyed
      exact reached.mapLog _
  | clear =>
      cases obeyed
      exact reached.mapLog _

/-- **All commands** lead to reachable states. -/
theorem drive (reached : Reachable name source options lx) {commands : List Command}
    {replies : List (Option Reply × Place)} (run : lx.drive commands = .ok (replies, after)) :
    Reachable name source options after := by
  induction commands generalizing lx replies with
  | nil =>
      cases run
      exact reached
  | cons command commands ih =>
      obtain ⟨⟨reply, next⟩, obeyed, rest⟩ := exists_of_bind_eq_ok run
      obtain ⟨⟨later, last⟩, later, done⟩ := exists_of_bind_eq_ok rest
      cases done
      exact ih (reached.obey obeyed) later

end Reachable

/-- **No fault.** For every source that is short enough for the counters,

* all commands are obeyed, and lead to reachable states;
* from every reachable state, however far is read from the mark on, no counter
  overflows, the mark is not ahead, and the text since the mark can be cut out;
* from every reachable state a token is scanned under every goal. Its lexeme is the
  text since the mark, its span is not reversed, and a snippet shows it;
* every offset between two characters has a line and column below the bound of the
  counters. The line is right wherever a search for the offset may end, which is never
  before the first entry of the index;
* every line can be cut out. -/
theorem runs_without_fault (name source : String) (options : Options)
    (short : source.utf8ByteSize < counterBound - 1) :
    (∀ commands, ∃ replies lx, (create name source options).drive commands = .ok (replies, lx) ∧
      Reachable name source options lx) ∧
    (∀ lx, Reachable name source options lx →
      (∀ n, ∃ cursor text, lx.cursor.setMark.advanceBy n = .ok cursor ∧ cursor.Sliceable text) ∧
      ∀ goal, ∃ token after snippet, lx.scanOne goal = .ok (token, after) ∧
        after.cursor.Sliceable token.lexeme ∧
        Span.between after.cursor.mark.offset after.cursor.place.offset after.cursor.mark.line
          after.cursor.mark.column = .ok token.span ∧
        Snippet.ofSpan ⟨name, source⟩ token.span = .ok snippet) ∧
    (∀ offset, Utf8.isBoundary source.toList offset = true →
      ∃ line column, SourceFile.lineCol ⟨name, source⟩ offset = .ok (line, column) ∧
        line < counterBound ∧ column < counterBound ∧
        (∀ index, (SourceFile.lineStarts ⟨name, source⟩)[index]? = some offset →
          line = index + 1) ∧
        (∀ index, InsertsAt (SourceFile.lineStarts ⟨name, source⟩) offset index →
          0 < index ∧ line = index)) ∧
    (∀ line, 0 < line → line ≤ SourceFile.lineCount ⟨name, source⟩ →
      ∃ text, SourceFile.lineText ⟨name, source⟩ line = .ok text) := by
  refine ⟨?_, ?_, ?_, fun line => SourceFile.exists_lineText⟩
  · intro commands
    obtain ⟨replies, lx, run, -⟩ := (create_aligned name options short).drive commands
    exact ⟨replies, lx, run, Reachable.create.drive run⟩
  · intro lx reached
    have safe := reached.safe short
    exact ⟨safe.sliceable short, safe.exists_scanOne short⟩
  · intro offset boundary
    obtain ⟨p, inside, rfl⟩ := Place.exists_isIn_of_isBoundary boundary
    obtain ⟨passed, before, here, on⟩ :
        ∃ passed before here,
          Place.OnLine (SourceFile.chars ⟨name, source⟩) passed before here p := inside.onLine
    have room := inside.hasRoom short
    unfold Place.HasRoom at room
    refine ⟨p.line, p.column, on.lineCol, by omega, by omega, fun index => on.line_of_hit, ?_⟩
    intro index inserts
    have found := on.line_of_insertsAt inserts
    have positive := on.line
    exact ⟨by omega, found⟩

/-- A look-ahead is given up after the caller has cleared the log, which takes the
cursor back over a comment and behind the mark. From there a token is scanned all the
same. -/
theorem runs_without_fault_rewound :
    "x/**/\r\n`é\u2028".utf8ByteSize < counterBound - 1 ∧
      ∃ replies lx,
        (create "a.js" "x/**/\r\n`é\u2028" { captureTrivia := false }).drive
            [.ask (.next .div), .ask (.peek .div), .clear] = .ok (replies, lx) ∧
        ∃ ahead, lx.lookahead = some ahead ∧
          (lx.discard ahead).cursor.place.offset < (lx.discard ahead).cursor.mark.offset ∧
          ∃ token after snippet, (lx.discard ahead).scanOne .regExp = .ok (token, after) ∧
            after.cursor.Sliceable token.lexeme ∧
            Snippet.ofSpan ⟨"a.js", "x/**/\r\n`é\u2028"⟩ token.span = .ok snippet := by
  obtain ⟨runs, scans, -⟩ := runs_without_fault "a.js" "x/**/\r\n`é\u2028"
    { captureTrivia := false } (by decide)
  obtain ⟨replies, lx, run, reached⟩ := runs [.ask (.next .div), .ask (.peek .div), .clear]
  obtain ⟨_, _, evaluated, ahead, held, behind⟩ :
      ∃ replies lx,
        (create "a.js" "x/**/\r\n`é\u2028" { captureTrivia := false }).drive
            [.ask (.next .div), .ask (.peek .div), .clear] = .ok (replies, lx) ∧
        ∃ ahead, lx.lookahead = some ahead ∧
          (lx.discard ahead).cursor.place.offset < (lx.discard ahead).cursor.mark.offset :=
    ⟨_, _, rfl, _, rfl, by decide⟩
  rw [evaluated] at run
  cases run
  obtain ⟨token, after, snippet, scanned, sliceable, -, found⟩ :=
    (scans _ (reached.discard held)).2 .regExp
  exact ⟨by decide, _, _, evaluated, ahead, held, behind, token, after, snippet, scanned,
    sliceable, found⟩

end Lexer

end GoalLexer
