import GoalLexer.Proofs.Commands
import GoalLexer.Proofs.Trivia

/-!
# Progress to a sticky end

A pull returns the end of the input exactly where no wanted token is left
(`Exhausted`), and otherwise takes at least one character. The two loops of a lexer,
over trivia in a scan and over tokens in `tokenize`, are given here without fuel, as
the relations `Lexer.Rounds` and `Lexer.Drains`. Every scan has rounds
(`Lexer.exists_rounds`) and every `tokenize` drains the source
(`Aligned.exists_drains`), each with no more tokens than there are characters.

The end is sticky: where the text is exhausted, every request gets the end of the
input and records nothing (`Aligned.serve_of_exhausted`), and no command leads away
(`Aligned.drive_of_exhausted`).
`Lexer.pulls_progress_to_end` puts this together.
-/

set_option autoImplicit false

namespace GoalLexer

/-- No wanted token is left in a text. -/
def Exhausted (options : Options) (cs : List Char) : Prop :=
  cs = [] ∨ options.captureTrivia = false ∧ SkipsTo cs []

namespace Reply

/-- The end of the input was reached for this reply, be it part of it or not. -/
def SawEnd : Reply → Prop
  | token t => t.isEndOfInput = true
  | tokens _ => True
  | item t => t = none

/-- There was nothing but the end of the input, at byte `size`. -/
def AtEnd (size : Nat) : Reply → Prop
  | token t => t.isEndOfInput = true ∧ t.lexeme = "" ∧ t.position.offset = size
  | tokens ts => ts = []
  | item t => t = none

end Reply

namespace Lexer

/-- The rounds of a scan: tokens are taken and skipped, a number of them, until one
is wanted. -/
inductive Rounds (goal : Goal) : Lexer → Nat → Token → Lexer → Prop
  | wanted {lx after : Lexer} {token : Token} (scanned : lx.scanOne goal = .ok (token, after))
      (kept : (token.kind.isTrivia && !after.options.captureTrivia) = false) :
      Rounds goal lx 0 token (after.traceToken goal token)
  | trivia {lx after last : Lexer} {skipped token : Token} {n : Nat}
      (scanned : lx.scanOne goal = .ok (skipped, after))
      (passed : (skipped.kind.isTrivia && !after.options.captureTrivia) = true)
      (rounds : Rounds goal after n token last) : Rounds goal lx (n + 1) token last

/-- Tokens are pulled under one goal until the end of the input is. -/
inductive Drains (goal : Goal) : Lexer → List Token → Lexer → Prop
  | finish {lx after : Lexer} {token : Token} (pulled : lx.next goal = .ok (token, after))
      (ended : token.isEndOfInput = true) : Drains goal lx [] after
  | pull {lx after last : Lexer} {token : Token} {tokens : List Token}
      (pulled : lx.next goal = .ok (token, after)) (goesOn : token.isEndOfInput = false)
      (drains : Drains goal after tokens last) : Drains goal lx (token :: tokens) last

end Lexer

/-! ## One pull -/

namespace Reader

variable {r : Reader}

theorem next_rest_eq_nil_iff (r : Reader) (goal : Goal) :
    (r.next goal).rest = [] ↔ Exhausted r.options r.place.rest := by
  unfold Exhausted Reader.next
  cases captures : r.options.captureTrivia with
  | true =>
      have kept : r.place.isSkipped r.options goal = false := by simp [Place.isSkipped, captures]
      simp [Place.wanted_of_not_isSkipped r.options goal kept]
  | false =>
      constructor
      · intro finished
        have skips := r.place.skipsTo_wanted r.options goal
        rw [finished] at skips
        exact Or.inr ⟨rfl, skips⟩
      · rintro (finished | ⟨-, skips⟩)
        · apply Place.wanted_rest_eq r.options goal captures _ bare_nil
          rw [finished]
          exact .done []
        · exact Place.wanted_rest_eq r.options goal captures skips bare_nil

theorem isEndOfInput_token_iff (r : Reader) (goal : Goal) :
    (r.token goal).isEndOfInput = true ↔ Exhausted r.options r.place.rest :=
  ((r.next goal).isEndOfInput_iff r.options goal r.name).trans (r.next_rest_eq_nil_iff goal)

/-- A token is what stands between the trivia skipped and the place after it. -/
theorem exists_rest_eq (r : Reader) (goal : Goal) :
    ∃ skipped, r.place.rest =
      skipped ++ ((r.token goal).lexeme.toList ++ (r.after goal).place.rest) := by
  obtain ⟨n, ahead⟩ := r.place.exists_wanted_eq_skip r.options goal
  have taken := (r.next goal).token_append_past r.options goal r.name
  refine ⟨r.place.rest.take n, ?_⟩
  have here : (r.next goal).rest = r.place.rest.drop n := by
    rw [Reader.next, ahead, Place.skip_rest]
  rw [here] at taken
  exact (List.take_append_drop n _).symm.trans (congrArg _ taken)

theorem after_offset (r : Reader) (goal : Goal) :
    (r.after goal).place.offset =
      (r.token goal).position.offset + (r.token goal).lexeme.utf8ByteSize :=
  (r.next goal).past_offset r.options goal r.name

/-- **Progress.** A token that is not the end of the input has characters. -/
theorem lexeme_ne_nil {goal : Goal} (goesOn : (r.token goal).isEndOfInput = false) :
    (r.token goal).lexeme.toList ≠ [] := by
  have unread : (r.next goal).rest ≠ [] := by
    intro finished
    have ended : (r.token goal).isEndOfInput = true :=
      ((r.next goal).isEndOfInput_iff r.options goal r.name).2 finished
    rw [goesOn] at ended
    cases ended
  rw [Reader.token, Place.token_lexeme]
  exact (Piece.scan_takes r.options goal unread).nonempty

theorem after_rest_length_lt {goal : Goal} (goesOn : (r.token goal).isEndOfInput = false) :
    (r.after goal).place.rest.length < r.place.rest.length := by
  obtain ⟨skipped, whole⟩ := r.exists_rest_eq goal
  have taken := List.length_pos_iff.2 (lexeme_ne_nil goesOn)
  have sizes := congrArg List.length whole
  simp only [List.length_append] at sizes
  omega

/-- Behind the end of the input nothing is left. -/
theorem after_rest_of_isEndOfInput {goal : Goal} (ended : (r.token goal).isEndOfInput = true) :
    (r.after goal).place.rest = [] := by
  have finished := ((r.next goal).isEndOfInput_iff r.options goal r.name).1 ended
  rw [after_place, Place.past, Place.skip_rest, finished, List.drop_nil]

/-- The end of the input is where the source ends. -/
theorem token_of_exhausted (sound : r.Sound) (exhausted : Exhausted r.options r.place.rest)
    (goal : Goal) :
    (Reply.token (r.token goal)).AtEnd r.source.utf8ByteSize ∧ (r.token goal).isError = false := by
  have finished := (r.next_rest_eq_nil_iff goal).2 exhausted
  obtain ⟨read, text, size⟩ := (sound.inside.wanted r.options goal).split
  have whole : r.source.toList = read := by
    rw [text]
    change read ++ (r.next goal).rest = read
    rw [finished, List.append_nil]
  have piece : (r.next goal).piece r.options goal = ⟨[], .ok .endOfInput⟩ := by
    rw [Place.piece, finished, Piece.scan_nil]
  refine ⟨⟨(r.isEndOfInput_token_iff goal).2 exhausted, ?_, ?_⟩, ?_⟩
  · simp [Reader.token, Place.token, piece]
  · rw [← Utf8.length_toList, whole, ← size]
    rfl
  · simp [Reader.token, Place.token, piece, Token.isError]

end Reader

/-! ## Loops without fuel -/

namespace Lexer

/-- The skipping loop comes to a wanted token, in at most one round for each
character. -/
theorem exists_rounds_of_fuel {goal : Goal} {fuel : List Char} {lx : Lexer}
    (room : lx.cursor.place.HasRoom) (enough : lx.cursor.place.rest.length ≤ fuel.length) :
    ∃ n token last, scanAux goal fuel lx = .ok (token, last) ∧ Rounds goal lx n token last ∧
      n + token.lexeme.toList.length ≤ lx.cursor.place.rest.length := by
  have scanned := scanOne_eq room goal
  have inside := (lx.cursor.place.token_lexeme_isPrefix lx.options goal lx.name).length_le
  induction fuel generalizing lx with
  | nil =>
      have finished : lx.cursor.place.rest = [] :=
        List.length_eq_zero_iff.1 (Nat.le_zero.1 enough)
      have kept : lx.cursor.place.isSkipped lx.options goal = false := by
        rw [← Bool.not_eq_true]
        exact fun skipped => Place.rest_ne_nil_of_isSkipped lx.options goal skipped finished
      refine ⟨0, _, _, ?_, .wanted scanned kept, by omega⟩
      simp only [scanAux, scanned, bind, Except.bind]
      rfl
  | cons c fuel ih =>
      cases skipped : lx.cursor.place.isSkipped lx.options goal with
      | false =>
          refine ⟨0, _, _, ?_, .wanted scanned skipped, by omega⟩
          have kept : ((lx.cursor.place.token lx.options goal lx.name).kind.isTrivia &&
              !(lx.took goal).options.captureTrivia) = false := skipped
          simp only [scanAux, scanned, bind, Except.bind, kept]
          rfl
      | true =>
          have passed : ((lx.cursor.place.token lx.options goal lx.name).kind.isTrivia &&
              !(lx.took goal).options.captureTrivia) = true := skipped
          have shorter := Place.past_rest_length_lt lx.options goal
            (Place.rest_ne_nil_of_isSkipped lx.options goal skipped)
          have roomNext : (lx.took goal).cursor.place.HasRoom := by
            rw [took_place]
            exact room.past lx.options goal
          have enoughNext : (lx.took goal).cursor.place.rest.length ≤ fuel.length := by
            rw [took_place]
            rw [List.length_cons] at enough
            omega
          obtain ⟨n, token, last, run, rounds, bound⟩ := ih roomNext enoughNext
            (scanOne_eq roomNext goal)
            ((lx.took goal).cursor.place.token_lexeme_isPrefix _ goal _).length_le
          refine ⟨n + 1, token, last, ?_, .trivia scanned passed rounds, ?_⟩
          · simp only [scanAux, scanned, bind, Except.bind, passed, if_true]
            exact run
          · rw [took_place] at bound
            omega

/-- **Every scan has rounds**, at most one for each character. -/
theorem exists_rounds {lx : Lexer} (room : lx.cursor.place.HasRoom) (goal : Goal) :
    ∃ n token last, lx.scan goal = .ok (token, last) ∧ Rounds goal lx n token last ∧
      n + token.lexeme.toList.length ≤ lx.cursor.place.rest.length :=
  exists_rounds_of_fuel room (Nat.le_refl _)

/-! ## Aligned lexers -/

namespace Aligned

variable {name source : String} {options : Options} {lx : Lexer}

theorem isEndOfInput_iff (aligned : Aligned name source options lx) (goal : Goal) :
    (lx.reader.token goal).isEndOfInput = true ↔ Exhausted options lx.place.rest := by
  rw [Reader.isEndOfInput_token_iff, reader_options, aligned.options, reader_place]

theorem exists_drains_of_fuel (aligned : Aligned name source options lx) {goal : Goal} {fuel : Nat}
    (enough : lx.place.rest.length < fuel) :
    ∃ tokens last, Lexer.tokenizeAux goal fuel lx = .ok (tokens, last) ∧
      Drains goal lx tokens last ∧ tokens.length ≤ lx.place.rest.length := by
  induction fuel generalizing lx with
  | zero => cases enough
  | succ fuel ih =>
      obtain ⟨after, pulled, alignedNext, moved, -⟩ := aligned.next goal
      cases ended : (lx.reader.token goal).isEndOfInput with
      | true =>
          refine ⟨[], after, ?_, .finish pulled ended, Nat.zero_le _⟩
          simp only [Lexer.tokenizeAux, pulled, bind, Except.bind, ended]
          rfl
      | false =>
          have shorter : after.place.rest.length < lx.place.rest.length := by
            rw [moved, ← reader_place]
            exact Reader.after_rest_length_lt ended
          obtain ⟨tokens, last, run, drains, bound⟩ := ih alignedNext (by omega)
          refine ⟨lx.reader.token goal :: tokens, last, ?_, .pull pulled ended drains, ?_⟩
          · simp only [Lexer.tokenizeAux, pulled, bind, Except.bind, ended, run]
            rfl
          · rw [List.length_cons]
            omega

/-- **Every `tokenize` drains the source**, in at most one token for each character. -/
theorem exists_drains (aligned : Aligned name source options lx) (goal : Goal) :
    ∃ tokens last, lx.tokenize goal = .ok (tokens, last) ∧ Drains goal lx tokens last ∧
      tokens.length ≤ lx.place.rest.length :=
  aligned.exists_drains_of_fuel (Nat.lt_succ_self _)

/-- The cursor has room also behind a token looked at. -/
theorem cursor_room (aligned : Aligned name source options lx) : lx.cursor.place.HasRoom := by
  cases held : lx.lookahead with
  | none =>
      have room := aligned.sound.room
      rwa [reader_of_none held] at room
  | some ahead =>
      rw [(aligned.ahead ahead held).2]
      exact (aligned.sound.after ahead.goal).room

/-! ## The sticky end -/

theorem token_atEnd (aligned : Aligned name source options lx)
    (exhausted : Exhausted options lx.place.rest) (goal : Goal) :
    (Reply.token (lx.reader.token goal)).AtEnd source.utf8ByteSize ∧
      (lx.reader.token goal).isError = false := by
  have ended : Exhausted lx.reader.options lx.reader.place.rest := by
    rw [reader_options, aligned.options, reader_place]
    exact exhausted
  have last := Reader.token_of_exhausted aligned.sound ended goal
  rwa [reader_source, aligned.source] at last

/-- A pull at the end gets the end, and nothing is left behind it. -/
theorem next_of_exhausted (aligned : Aligned name source options lx)
    (exhausted : Exhausted options lx.place.rest) (goal : Goal) :
    ∃ after, lx.next goal = .ok (lx.reader.token goal, after) ∧ after.place.rest = [] ∧
      after.log.toList <+: lx.log.toList := by
  obtain ⟨after, pulled, -, moved, -, logged⟩ := aligned.next goal
  obtain ⟨⟨ended, -⟩, wellFormed⟩ := aligned.token_atEnd exhausted goal
  refine ⟨after, pulled, ?_, logged wellFormed⟩
  rw [moved]
  exact Reader.after_rest_of_isEndOfInput ended

/-- **One request** at the end gets the end, stays there, and adds no diagnostic. -/
theorem serve_of_exhausted (aligned : Aligned name source options lx)
    (exhausted : Exhausted options lx.place.rest) (request : Request) :
    ∃ reply after, lx.serve request = .ok (reply, after) ∧ reply.AtEnd source.utf8ByteSize ∧
      Exhausted options after.place.rest ∧ after.log.toList <+: lx.log.toList := by
  cases request with
  | next goal =>
      obtain ⟨after, pulled, finished, logged⟩ := aligned.next_of_exhausted exhausted goal
      exact ⟨_, after, serve_next pulled, (aligned.token_atEnd exhausted goal).1, Or.inl finished,
        logged⟩
  | peek goal =>
      obtain ⟨after, looked, -, stayed, logged⟩ := aligned.peek goal
      obtain ⟨ended, wellFormed⟩ := aligned.token_atEnd exhausted goal
      refine ⟨_, after, serve_peek looked, ended, ?_, logged wellFormed⟩
      rw [stayed]
      exact exhausted
  | tokenize goal =>
      obtain ⟨after, pulled, finished, logged⟩ := aligned.next_of_exhausted exhausted goal
      have ended := (aligned.token_atEnd exhausted goal).1.1
      have run : lx.tokenize goal = .ok ([], after) := by
        simp only [Lexer.tokenize, Lexer.tokenizeAux, pulled, bind, Except.bind, ended]
        rfl
      exact ⟨_, after, serve_tokenize run, rfl, Or.inl finished, logged⟩
  | item =>
      obtain ⟨after, pulled, finished, logged⟩ := aligned.next_of_exhausted exhausted .div
      have ended := (aligned.token_atEnd exhausted .div).1.1
      have served := serve_item pulled
      rw [ended] at served
      exact ⟨.item none, after, served, rfl, Or.inl finished, logged⟩

/-- **Commands** at the end, requests or changes to the log, stay at the end. -/
theorem drive_of_exhausted (aligned : Aligned name source options lx)
    (exhausted : Exhausted options lx.place.rest) (commands : List Command) :
    ∃ replies last, lx.drive commands = .ok (replies, last) ∧
      Aligned name source options last ∧ Exhausted options last.place.rest := by
  induction commands generalizing lx with
  | nil => exact ⟨[], lx, rfl, aligned, exhausted⟩
  | cons command commands ih =>
      have obeyed : ∃ reply after, lx.obey command = .ok (reply, after) ∧
          Exhausted options after.place.rest := by
        cases command with
        | ask request =>
            obtain ⟨reply, after, served, -, still, -⟩ :=
              aligned.serve_of_exhausted exhausted request
            exact ⟨some reply, after, obey_ask served, still⟩
        | emit d => exact ⟨none, _, rfl, exhausted⟩
        | truncate n => exact ⟨none, _, rfl, exhausted⟩
        | clear => exact ⟨none, _, rfl, exhausted⟩
      obtain ⟨reply, after, obeyed, still⟩ := obeyed
      obtain ⟨_, _, again, alignedNext⟩ := aligned.obey command
      rw [obeyed] at again
      cases again
      obtain ⟨replies, last, run, alignedLast, ended⟩ := ih alignedNext still
      refine ⟨(reply, after.place) :: replies, last, ?_, alignedLast, ended⟩
      simp only [Lexer.drive, obeyed, run, bind, Except.bind]
      rfl

end Aligned

/-- Draining leaves nothing. -/
theorem Drains.rest_eq_nil {name source : String} {options : Options} {goal : Goal}
    {lx last : Lexer} {tokens : List Token} (drains : Drains goal lx tokens last)
    (aligned : Aligned name source options lx) : last.place.rest = [] := by
  induction drains with
  | finish pulled ended =>
      obtain ⟨_, again, -, moved, -⟩ := aligned.next goal
      rw [pulled] at again
      cases again
      rw [moved]
      exact Reader.after_rest_of_isEndOfInput ended
  | pull pulled _ _ ih =>
      obtain ⟨_, again, alignedNext, -⟩ := aligned.next goal
      rw [pulled] at again
      cases again
      exact ih alignedNext

/-- Once the end has been reached, nothing is left. -/
theorem Aligned.exhausted_of_sawEnd {name source : String} {options : Options} {lx after : Lexer}
    (aligned : Aligned name source options lx) {request : Request} {reply : Reply}
    (served : lx.serve request = .ok (reply, after)) (saw : reply.SawEnd) :
    Exhausted options after.place.rest := by
  cases request with
  | next goal =>
      obtain ⟨_, pulled, -, moved, -⟩ := aligned.next goal
      rw [serve_next pulled] at served
      cases served
      rw [moved]
      exact Or.inl (Reader.after_rest_of_isEndOfInput saw)
  | peek goal =>
      obtain ⟨_, looked, -, stayed, -⟩ := aligned.peek goal
      rw [serve_peek looked] at served
      cases served
      rw [stayed]
      exact (aligned.isEndOfInput_iff goal).1 saw
  | tokenize goal =>
      obtain ⟨tokens, last, run, drains, -⟩ := aligned.exists_drains goal
      rw [serve_tokenize run] at served
      cases served
      exact Or.inl (drains.rest_eq_nil aligned)
  | item =>
      obtain ⟨_, pulled, -, moved, -⟩ := aligned.next .div
      rw [serve_item pulled] at served
      cases ended : (lx.reader.token .div).isEndOfInput with
      | true =>
          cases served
          rw [moved]
          exact Or.inl (Reader.after_rest_of_isEndOfInput ended)
      | false =>
          rw [ended] at served
          cases served
          cases saw

/-- **Progress to a sticky end.** After any commands and under any goal,

* a pull returns the end of the input exactly where no wanted token is left, and
  else a token with characters, which moves the place to its end;
* `tokenize` ends, with at most one token for each character, and so does the loop
  over trivia, whether it starts from the cursor or behind a look-ahead given up;
* once the end has been reached, whatever commands follow, every request gets the
  end of the input, at the end of the source, and adds no diagnostic. -/
theorem pulls_progress_to_end (name source : String) (options : Options)
    (commands : List Command) (short : source.utf8ByteSize < counterBound - 1) :
    ∃ replies lx, (create name source options).drive commands = .ok (replies, lx) ∧
      (∀ goal, ∃ token after, lx.next goal = .ok (token, after) ∧
        (token.isEndOfInput = true ↔ Exhausted options lx.place.rest) ∧
        (token.isEndOfInput = false → token.lexeme ≠ "" ∧
          after.place.offset = token.position.offset + token.lexeme.utf8ByteSize ∧
          ∃ skipped, lx.place.rest = skipped ++ (token.lexeme.toList ++ after.place.rest))) ∧
      (∀ goal, ∃ tokens last, lx.tokenize goal = .ok (tokens, last) ∧
        Drains goal lx tokens last ∧ tokens.length ≤ lx.place.rest.length) ∧
      (∀ goal start,
        (start = lx ∨ ∃ ahead, lx.lookahead = some ahead ∧ start = lx.discard ahead) →
        ∃ skipped token last, start.scan goal = .ok (token, last) ∧
          Rounds goal start skipped token last ∧
          skipped + token.lexeme.toList.length ≤ start.cursor.place.rest.length) ∧
      (∀ request reply after, lx.serve request = .ok (reply, after) → reply.SawEnd →
        ∀ more, ∃ later last, after.drive more = .ok (later, last) ∧
          ∀ request, ∃ reply final, last.serve request = .ok (reply, final) ∧
            reply.AtEnd source.utf8ByteSize ∧ final.log.toList <+: last.log.toList) := by
  obtain ⟨replies, lx, run, aligned⟩ := (create_aligned name options short).drive commands
  refine ⟨replies, lx, run, ?_, aligned.exists_drains, ?_, ?_⟩
  · intro goal
    obtain ⟨after, pulled, -, moved, -⟩ := aligned.next goal
    refine ⟨lx.reader.token goal, after, pulled, aligned.isEndOfInput_iff goal, ?_⟩
    intro goesOn
    rw [moved, ← reader_place]
    refine ⟨?_, lx.reader.after_offset goal, lx.reader.exists_rest_eq goal⟩
    intro empty
    exact Reader.lexeme_ne_nil goesOn (String.toList_eq_nil_iff.2 empty)
  · rintro goal _ (rfl | ⟨ahead, held, rfl⟩)
    · exact exists_rounds aligned.cursor_room goal
    · exact exists_rounds (aligned.discard held).cursor_room goal
  · intro request reply after served saw more
    have exhausted := aligned.exhausted_of_sawEnd served saw
    obtain ⟨_, _, again, alignedNext⟩ := aligned.serve request
    rw [served] at again
    cases again
    obtain ⟨later, last, driven, alignedLast, still⟩ :=
      alignedNext.drive_of_exhausted exhausted more
    refine ⟨later, last, driven, ?_⟩
    intro request
    obtain ⟨reply, final, answered, ended, -, logged⟩ :=
      alignedLast.serve_of_exhausted still request
    exact ⟨reply, final, answered, ended, logged⟩

/-- Behind the name only trivia are left: white space, a comment of two stars, and a
comment up to the end. Told to skip them, the lexer is at the end under every goal. -/
theorem pulls_progress_to_end_trivia :
    "x /**/ //".utf8ByteSize < counterBound - 1 ∧
      ∃ replies lx,
        (create "a.js" "x /**/ //" { captureTrivia := false }).drive
            [.ask (.peek .regExp), .clear, .ask (.next .div)] = .ok (replies, lx) ∧
        ∀ goal, ∃ token after, lx.next goal = .ok (token, after) ∧ token.isEndOfInput = true := by
  obtain ⟨replies, lx, run, pulls, -⟩ := pulls_progress_to_end "a.js" "x /**/ //"
    { captureTrivia := false } [.ask (.peek .regExp), .clear, .ask (.next .div)] (by decide)
  obtain ⟨_, _, evaluated, left⟩ :
      ∃ replies lx, (create "a.js" "x /**/ //" { captureTrivia := false }).drive
          [.ask (.peek .regExp), .clear, .ask (.next .div)] = .ok (replies, lx) ∧
        lx.place.rest = [' ', '/', '*', '*', '/', ' ', '/', '/'] := ⟨_, _, rfl, by decide⟩
  rw [evaluated] at run
  cases run
  have lastComment : SkipsTo ['/', '/'] [] :=
    @SkipsTo.line [] [] [] (by simp) (by simp) (.done [])
  have firstComment : SkipsTo ['/', '*', '*', '/', ' ', '/', '/'] [' ', '/', '/'] :=
    @SkipsTo.block [] _ _ (by simp) (.done _)
  have skips : SkipsTo [' ', '/', '*', '*', '/', ' ', '/', '/'] [] :=
    .white (by decide) (firstComment.trans (.white (by decide) lastComment))
  refine ⟨by decide, _, _, evaluated, ?_⟩
  intro goal
  obtain ⟨token, after, pulled, ended, -⟩ := pulls goal
  rw [left] at ended
  exact ⟨token, after, pulled, ended.2 (Or.inr ⟨rfl, skips⟩)⟩

end Lexer

end GoalLexer
