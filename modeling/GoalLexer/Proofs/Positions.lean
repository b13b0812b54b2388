import GoalLexer.Proofs.Progress
import GoalLexer.Proofs.Reports
import GoalLexer.Proofs.Walks

/-!
# Positions

Lines and columns are found in two ways: from the line index of the source, and by
counting while the text is read. Something is `Located` where both agree, and every
place of the source is (`Place.IsIn.located`). So are then

* the tokens that a lexer returns and the places it passes, because a lexer that is
  `Aligned` stands in its source, and
* the places of a bare cursor under all its operations, un-reading a character and
  going back to a snapshot included (`Cursor.Walk.Inside.run`).

The place of a lexer is also told by the tokens it took: it is the end of the last of
them. `tokenize` and the iteration take the end of the input without returning it, so
each request is spelled out as the pulls and looks it stands for (`Exchange.steps`),
and `Lexer.Passes` follows these. `Lexer.positions_agree` puts both parts together.
-/

set_option autoImplicit false

namespace GoalLexer

/-- The index of a file finds the line and column that the place has counted. -/
def Place.Located (file : SourceFile) (p : Place) : Prop :=
  file.lineCol p.offset = .ok (p.line, p.column)

/-- The index of a file finds the line and column that the token tells. -/
def Token.Located (file : SourceFile) (t : Token) : Prop :=
  file.lineCol t.position.offset = .ok (t.position.line, t.position.column)

/-- The offset behind a token. -/
def Token.endOffset (t : Token) : Nat := t.position.offset + t.lexeme.utf8ByteSize

/-- The pulls and looks that a request stands for. To find the end of the input takes
`tokenize` one pull more than it returns tokens. -/
def Exchange.steps (e : Exchange) : List Request :=
  match e.request, e.reply with
  | .tokenize goal, reply => List.replicate (reply.returned.length + 1) (.next goal)
  | .item, _ => [.next .div]
  | request, _ => [request]

theorem Place.IsIn.located {file : SourceFile} {p : Place} (inside : p.IsIn file.chars) :
    p.Located file := by
  obtain ⟨passed, before, here, on⟩ := inside.onLine
  exact on.lineCol

/-! ## Tokens and the places behind them -/

namespace Lexer

theorem session_append {lx mid last : Lexer} {first second : List Request}
    {exchanges more : List Exchange} (run : lx.session first = .ok (exchanges, mid))
    (rest : mid.session second = .ok (more, last)) :
    lx.session (first ++ second) = .ok (exchanges ++ more, last) := by
  induction first generalizing lx exchanges with
  | nil =>
      cases run
      exact rest
  | cons request first ih =>
      simp only [session, bind, Except.bind] at run
      split at run
      · cases run
      rename_i served
      split at run
      · cases run
      rename_i later
      cases run
      simp only [List.cons_append, session, served, ih later, bind, Except.bind]
      rfl

/-- Requests lead from one lexer to another, taking tokens on the way, and the place
is behind the last token taken. -/
structure Passes (lx : Lexer) (requests : List Request) (tokens : List Token)
    (last : Lexer) : Prop where
  run : ∃ exchanges, lx.session requests = .ok (exchanges, last) ∧
    exchanges.flatMap Exchange.consumed = tokens
  offset : last.place.offset = (tokens.getLast?.map Token.endOffset).getD lx.place.offset

namespace Passes

variable {lx mid last : Lexer} {first second : List Request} {tokens more : List Token}

theorem refl (lx : Lexer) : Passes lx [] [] lx := ⟨⟨[], rfl, rfl⟩, rfl⟩

theorem trans (one : Passes lx first tokens mid) (other : Passes mid second more last) :
    Passes lx (first ++ second) (tokens ++ more) last where
  run := by
    obtain ⟨exchanges, run, consumed⟩ := one.run
    obtain ⟨later, rest, consumedLater⟩ := other.run
    refine ⟨exchanges ++ later, session_append run rest, ?_⟩
    rw [List.flatMap_append, consumed, consumedLater]
  offset := by
    rw [other.offset, one.offset, List.getLast?_append]
    cases more.getLast? <;> rfl

end Passes

namespace Aligned

variable {name source : String} {options : Options} {lx : Lexer}

theorem located_place (aligned : Aligned name source options lx) :
    lx.place.Located ⟨name, source⟩ := by
  have inside := aligned.sound.inside
  rw [reader_place, reader_source, aligned.source] at inside
  exact Place.IsIn.located inside

theorem located_token (aligned : Aligned name source options lx) (goal : Goal) :
    (lx.reader.token goal).Located ⟨name, source⟩ := by
  have inside := aligned.sound.inside.wanted lx.reader.options goal
  rw [reader_source, aligned.source] at inside
  exact Place.IsIn.located inside

/-- A pull takes its token. -/
theorem passes_next (aligned : Aligned name source options lx) {goal : Goal} {token : Token}
    {after : Lexer} (pulled : lx.next goal = .ok (token, after)) :
    Passes lx [.next goal] [token] after := by
  obtain ⟨_, again, -, moved, -⟩ := aligned.next goal
  rw [pulled] at again
  cases again
  refine ⟨⟨[⟨.next goal, .token (lx.reader.token goal), after.place, after.log.toList⟩], ?_, rfl⟩,
    ?_⟩
  · simp only [Lexer.session, serve_next pulled, bind, Except.bind]
    rfl
  · rw [moved]
    exact lx.reader.after_offset goal

theorem passes_peek (aligned : Aligned name source options lx) {goal : Goal} {token : Token}
    {after : Lexer} (looked : lx.peek goal = .ok (token, after)) :
    Passes lx [.peek goal] [] after := by
  obtain ⟨_, again, -, stayed, -⟩ := aligned.peek goal
  rw [looked] at again
  cases again
  refine ⟨⟨[⟨.peek goal, .token (lx.reader.token goal), after.place, after.log.toList⟩], ?_, rfl⟩,
    ?_⟩
  · simp only [Lexer.session, serve_peek looked, bind, Except.bind]
    rfl
  · rw [stayed]
    rfl

end Aligned

/-- Draining takes the tokens found and the end of the input. -/
theorem Drains.passes {name source : String} {options : Options} {goal : Goal} {lx last : Lexer}
    {tokens : List Token} (drains : Drains goal lx tokens last)
    (aligned : Aligned name source options lx) :
    ∃ ended : Token, ended.isEndOfInput = true ∧
      Passes lx (List.replicate (tokens.length + 1) (.next goal)) (tokens ++ [ended]) last ∧
      ∀ t ∈ tokens, t.Located ⟨name, source⟩ := by
  induction drains with
  | finish pulled ended =>
      exact ⟨_, ended, aligned.passes_next pulled, by simp⟩
  | pull pulled goesOn drains ih =>
      obtain ⟨_, again, alignedNext, -⟩ := aligned.next goal
      have located := aligned.located_token goal
      have first := aligned.passes_next pulled
      rw [pulled] at again
      cases again
      obtain ⟨last, ended, rest, locatedRest⟩ := ih alignedNext
      refine ⟨last, ended, first.trans rest, ?_⟩
      intro t listed
      rcases List.mem_cons.1 listed with rfl | later
      · exact located
      · exact locatedRest t later

namespace Aligned

variable {name source : String} {options : Options} {lx : Lexer}

/-- **One request** takes the tokens it consumes, and perhaps the end of the input. -/
theorem passes_serve (aligned : Aligned name source options lx) (request : Request) :
    ∃ reply after tokens, lx.serve request = .ok (reply, after) ∧
      Aligned name source options after ∧ (∀ t ∈ reply.returned, t.Located ⟨name, source⟩) ∧
      Passes lx (Exchange.steps ⟨request, reply, after.place, after.log.toList⟩) tokens after ∧
      tokens.filter (!·.isEndOfInput) =
        (Exchange.consumed ⟨request, reply, after.place, after.log.toList⟩).filter
          (!·.isEndOfInput) := by
  cases request with
  | next goal =>
      obtain ⟨after, pulled, alignedNext, -⟩ := aligned.next goal
      refine ⟨_, after, [lx.reader.token goal], serve_next pulled, alignedNext, ?_,
        aligned.passes_next pulled, rfl⟩
      intro t listed
      rw [List.mem_singleton.1 listed]
      exact aligned.located_token goal
  | peek goal =>
      obtain ⟨after, looked, alignedNext, -⟩ := aligned.peek goal
      refine ⟨_, after, [], serve_peek looked, alignedNext, ?_, aligned.passes_peek looked, rfl⟩
      intro t listed
      rw [List.mem_singleton.1 listed]
      exact aligned.located_token goal
  | tokenize goal =>
      obtain ⟨tokens, last, run, drains, -⟩ := aligned.exists_drains goal
      obtain ⟨ended, isEnd, passes, located⟩ := drains.passes aligned
      obtain ⟨_, _, again, alignedLast⟩ := aligned.serve (.tokenize goal)
      rw [serve_tokenize run] at again
      cases again
      refine ⟨_, last, tokens ++ [ended], serve_tokenize run, alignedLast, located, passes, ?_⟩
      simp [Exchange.consumed, isEnd]
  | item =>
      obtain ⟨after, pulled, alignedNext, -⟩ := aligned.next .div
      refine ⟨_, after, [lx.reader.token .div], serve_item pulled, alignedNext, ?_,
        aligned.passes_next pulled, ?_⟩
      · intro t listed
        simp only [Reply.returned] at listed
        split at listed
        · cases listed
        · rw [List.mem_singleton.1 listed]
          exact aligned.located_token .div
      · cases ended : (lx.reader.token .div).isEndOfInput <;> simp [Exchange.consumed, ended]

/-- **All requests** of a session. -/
theorem passes_session (aligned : Aligned name source options lx) (requests : List Request) :
    ∃ exchanges last tokens, lx.session requests = .ok (exchanges, last) ∧
      Aligned name source options last ∧
      (∀ e ∈ exchanges, e.place.Located ⟨name, source⟩ ∧
        ∀ t ∈ e.reply.returned, t.Located ⟨name, source⟩) ∧
      Passes lx (exchanges.flatMap Exchange.steps) tokens last ∧
      tokens.filter (!·.isEndOfInput) =
        (exchanges.flatMap Exchange.consumed).filter (!·.isEndOfInput) := by
  induction requests generalizing lx with
  | nil => exact ⟨[], lx, [], rfl, aligned, by simp, .refl lx, rfl⟩
  | cons request requests ih =>
      obtain ⟨reply, after, tokens, served, alignedNext, located, passes, same⟩ :=
        aligned.passes_serve request
      obtain ⟨exchanges, last, more, run, alignedLast, locatedRest, passesRest, sameRest⟩ :=
        ih alignedNext
      refine ⟨⟨request, reply, after.place, after.log.toList⟩ :: exchanges, last, tokens ++ more,
        ?_, alignedLast, ?_, ?_, ?_⟩
      · simp only [Lexer.session, served, run, bind, Except.bind]
        rfl
      · intro e listed
        rcases List.mem_cons.1 listed with rfl | later
        · exact ⟨alignedNext.located_place, located⟩
        · exact locatedRest e later
      · exact passes.trans passesRest
      · rw [List.filter_append, same, sameRest, List.flatMap_cons, List.filter_append]

end Aligned

/-- **Positions agree.** In every session the index of the source finds the line and
column of every token returned and of the place after every request, which is the end
of the last token taken. The tokens taken are those of the session in which requests
are spelled out as pulls and looks; it ends in the same lexer, and takes the tokens
consumed and ends of the input. The index also finds the line and column of a bare
cursor, whatever operations it has performed. -/
theorem positions_agree (name source : String) (options : Options)
    (short : source.utf8ByteSize < counterBound - 1) :
    (∀ requests, ∃ exchanges lx,
      (create name source options).session requests = .ok (exchanges, lx) ∧
      (∀ e ∈ exchanges, e.place.Located ⟨name, source⟩ ∧
        ∀ t ∈ e.reply.returned, t.Located ⟨name, source⟩) ∧
      lx.place.Located ⟨name, source⟩ ∧
      ∃ pulls, (create name source options).session (exchanges.flatMap Exchange.steps) =
          .ok (pulls, lx) ∧
        (pulls.flatMap Exchange.consumed).filter (!·.isEndOfInput) =
          (exchanges.flatMap Exchange.consumed).filter (!·.isEndOfInput) ∧
        lx.place.offset =
          ((pulls.flatMap Exchange.consumed).getLast?.map Token.endOffset).getD 0) ∧
    (∀ operations, ∃ walk, (Cursor.Walk.ofText source).run operations = .ok walk ∧
      walk.cursor.place.Located ⟨name, source⟩) := by
  constructor
  · intro requests
    obtain ⟨exchanges, lx, tokens, run, aligned, located, passes, same⟩ :=
      (create_aligned name options short).passes_session requests
    obtain ⟨pulls, spelled, rfl⟩ := passes.run
    exact ⟨exchanges, lx, run, located, aligned.located_place, pulls, spelled, same, passes.offset⟩
  · intro operations
    obtain ⟨walk, run, inside⟩ := (Cursor.Walk.inside_ofText source).run short operations
    exact ⟨walk, run, Place.IsIn.located inside.cursor.place⟩

/-- `tokenize` runs over the comment to the end, and a cursor goes back to a place
between CR and LF, where the first line has not ended yet. -/
theorem positions_agree_line_break :
    "x\r\n// é".utf8ByteSize < counterBound - 1 ∧
      (∃ exchanges lx,
        (create "a.js" "x\r\n// é" { captureTrivia := false }).session
            [.peek .regExp, .tokenize .div] = .ok (exchanges, lx) ∧
        lx.place.coordinates = (8, 2, 4) ∧ lx.place.Located ⟨"a.js", "x\r\n// é"⟩) ∧
      ∃ walk,
        (Cursor.Walk.ofText "x\r\n// é").run
            [.advance, .advance, .snapshot, .advance, .advance, .backup, .restore 0] = .ok walk ∧
        walk.cursor.place.coordinates = (2, 1, 2) ∧
        walk.cursor.place.Located ⟨"a.js", "x\r\n// é"⟩ := by
  obtain ⟨sessions, walks⟩ := positions_agree "a.js" "x\r\n// é" { captureTrivia := false }
    (by decide)
  refine ⟨by decide, ?_, ?_⟩
  · obtain ⟨exchanges, lx, run, -, located, -⟩ := sessions [.peek .regExp, .tokenize .div]
    obtain ⟨_, _, evaluated, reached⟩ :
        ∃ exchanges lx, (create "a.js" "x\r\n// é" { captureTrivia := false }).session
            [.peek .regExp, .tokenize .div] = .ok (exchanges, lx) ∧
          lx.place.coordinates = (8, 2, 4) := ⟨_, _, rfl, by decide⟩
    rw [evaluated] at run
    cases run
    exact ⟨_, _, evaluated, reached, located⟩
  · obtain ⟨walk, run, located⟩ :=
      walks [.advance, .advance, .snapshot, .advance, .advance, .backup, .restore 0]
    obtain ⟨_, evaluated, reached⟩ :
        ∃ walk, (Cursor.Walk.ofText "x\r\n// é").run
            [.advance, .advance, .snapshot, .advance, .advance, .backup, .restore 0] = .ok walk ∧
          walk.cursor.place.coordinates = (2, 1, 2) := ⟨_, rfl, by decide⟩
    rw [evaluated] at run
    cases run
    exact ⟨_, evaluated, reached, located⟩

end Lexer

end GoalLexer
