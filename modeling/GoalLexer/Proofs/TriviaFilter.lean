import GoalLexer.Proofs.Progress
import GoalLexer.Proofs.Reports

/-!
# Suppressing trivia is filtering

Two lexers over one source differ only in whether they capture trivia. The one that
skips them gives the tokens that are left of the other's when trivia are taken out.

The comparison is between a reader and the same reader with trivia captured,
`Reader.capturing`. One pull of the capturing reader either passes over trivia, which
the other reader does not notice (`Reader.capturing_of_isSkipped`), or it is the pull
of the other reader (`Reader.capturing_of_not_isSkipped`). So a pull is a search for
the next solid token (`Lexer.Seeks`), pulls under many goals go side by side
(`Lexer.SideBySide`), and `tokenize` filters (`Reader.tokenizeAux_capturing`).
`Lexer.suppressing_trivia_filters` is the statement for lexers.
-/

set_option autoImplicit false

namespace GoalLexer

/-- The same options with trivia captured. -/
def Options.capturing (options : Options) : Options := { options with captureTrivia := true }

/-- The kinds of token that are left out when trivia are suppressed. -/
def TokenKind.suppressed : List TokenKind := [.whiteSpace, .singleLineComment, .multiLineComment]

theorem TokenKind.isTrivia_iff (kind : TokenKind) : kind.isTrivia = true ↔ kind ∈ suppressed := by
  cases kind <;> simp [isTrivia, suppressed]


/-- A piece is the same whether or not trivia are captured. -/
@[simp] theorem Piece.scan_capturing (options : Options) (goal : Goal) (cs : List Char) :
    scan options.capturing goal cs = scan options goal cs := by
  cases cs with
  | nil => rfl
  | cons c cs => rfl

namespace Place

variable {options : Options} {goal : Goal}

@[simp] theorem piece_capturing (p : Place) :
    p.piece options.capturing goal = p.piece options goal :=
  Piece.scan_capturing options goal p.rest

@[simp] theorem past_capturing (p : Place) :
    p.past options.capturing goal = p.past options goal := by
  unfold past
  rw [piece_capturing]

@[simp] theorem token_capturing (p : Place) (name : String) :
    p.token options.capturing goal name = p.token options goal name := by
  unfold token
  rw [piece_capturing]

end Place

/-! ## One pull of the capturing reader -/

namespace Reader

/-- The same reader with trivia captured. -/
def capturing (r : Reader) : Reader := { r with options := r.options.capturing }

/-- The reader behind the token at its place, be it trivia or not. Nothing is
recorded. -/
def behind (r : Reader) (goal : Goal) : Reader := { r with place := r.place.past r.options goal }

variable {r : Reader} {goal : Goal}

theorem capturing_next (r : Reader) (goal : Goal) : r.capturing.next goal = r.place :=
  next_of_captures rfl goal

theorem capturing_token (r : Reader) (goal : Goal) :
    r.capturing.token goal = r.place.token r.options goal r.name := by
  unfold Reader.token
  rw [capturing_next]
  exact r.place.token_capturing r.name

/-- Trivia are pulled by the capturing reader, and recorded nowhere; the other reader
does not notice that it stands before them. -/
theorem capturing_of_isSkipped (skipped : r.place.isSkipped r.options goal = true) :
    (r.capturing.token goal).kind.isTrivia = true ∧
      r.capturing.after goal = (r.behind goal).capturing ∧
      r.token goal = (r.behind goal).token goal ∧ r.after goal = (r.behind goal).after goal := by
  have trivia : (r.capturing.token goal).kind.isTrivia = true := by
    rw [capturing_token]
    exact (Bool.and_eq_true_iff.1 skipped).1
  have ahead : r.next goal = (r.behind goal).next goal :=
    Place.wanted_of_isSkipped r.options goal skipped
  have sameToken : r.token goal = (r.behind goal).token goal := by
    unfold Reader.token
    rw [ahead]
    rfl
  have unrecorded : (r.capturing.after goal).log = r.capturing.log :=
    Lexer.Aligned.log_after_of_not_isError r.capturing (Token.not_isError_of_isTrivia trivia).1
  refine ⟨trivia, ?_, sameToken, ?_⟩
  · have moved : (r.capturing.after goal).place = r.place.past r.options goal := by
      rw [after_place, capturing_next]
      exact r.place.past_capturing
    calc r.capturing.after goal
        = { r.capturing with
            place := (r.capturing.after goal).place, log := (r.capturing.after goal).log } := rfl
      _ = (r.behind goal).capturing := by rw [moved, unrecorded]; rfl
  · unfold Reader.after
    rw [sameToken, ahead]
    rfl

/-- A token that is not skipped is pulled by both readers. -/
theorem capturing_of_not_isSkipped (skipping : r.options.captureTrivia = false)
    (kept : r.place.isSkipped r.options goal = false) :
    (r.token goal).kind.isTrivia = false ∧ r.capturing.token goal = r.token goal ∧
      r.capturing.after goal = (r.after goal).capturing := by
  have here : r.next goal = r.place := Place.wanted_of_not_isSkipped r.options goal kept
  have sameToken : r.capturing.token goal = r.token goal := by
    rw [capturing_token]
    unfold Reader.token
    rw [here]
  refine ⟨?_, sameToken, ?_⟩
  · unfold Place.isSkipped at kept
    rw [skipping, Bool.not_false, Bool.and_true] at kept
    unfold Reader.token
    rw [here]
    exact kept
  · unfold Reader.after
    rw [sameToken, capturing_next, here]
    exact congrArg (fun place => (Reader.mk _ _ _ place _)) r.place.past_capturing

/-- Induction along the trivia that a reader stands before. -/
theorem trivia_induction {motive : Reader → Prop} (goal : Goal) (r : Reader)
    (kept : ∀ r, r.place.isSkipped r.options goal = false → motive r)
    (skipped : ∀ r, r.place.isSkipped r.options goal = true → motive (r.behind goal) → motive r) :
    motive r := by
  obtain ⟨name, options, source, place, log⟩ := r
  induction place using Place.wanted_induction options goal with
  | kept p wanted => exact kept ⟨name, options, source, p, log⟩ wanted
  | skipped p passed ih => exact skipped ⟨name, options, source, p, log⟩ passed ih

/-! ## All tokens -/

theorem tokenizeAux_behind (skipped : r.place.isSkipped r.options goal = true) {fuel : Nat}
    (fueled : 0 < fuel) : r.tokenizeAux goal fuel = (r.behind goal).tokenizeAux goal fuel := by
  obtain ⟨-, -, sameToken, sameAfter⟩ := capturing_of_isSkipped skipped
  cases fuel with
  | zero => cases fueled
  | succ fuel => rw [tokenizeAux, tokenizeAux, sameToken, sameAfter]

/-- **All tokens** of a reader are those of the capturing reader without trivia, and
both end in the same place with the same log. -/
theorem tokenizeAux_capturing {fuel more : Nat} (skipping : r.options.captureTrivia = false)
    (enough : r.place.rest.length < fuel) (enoughMore : r.place.rest.length < more) :
    (r.tokenizeAux goal fuel).1 =
        (r.capturing.tokenizeAux goal more).1.filter (!·.kind.isTrivia) ∧
      (r.capturing.tokenizeAux goal more).2 = (r.tokenizeAux goal fuel).2.capturing := by
  -- each pull of the capturing reader uses fuel, and the other reader follows it
  induction more generalizing r fuel with
  | zero => cases enoughMore
  | succ more ih =>
      cases skipped : r.place.isSkipped r.options goal with
      | true =>
          obtain ⟨trivia, moved, -⟩ := capturing_of_isSkipped skipped
          have shorter := Place.past_rest_length_lt r.options goal
            (Place.rest_ne_nil_of_isSkipped r.options goal skipped)
          have goesOn := (Token.not_isError_of_isTrivia trivia).2
          have step : r.capturing.tokenizeAux goal (more + 1) =
              (r.capturing.token goal :: ((r.behind goal).capturing.tokenizeAux goal more).1,
                ((r.behind goal).capturing.tokenizeAux goal more).2) := by
            rw [tokenizeAux, goesOn, moved]
            rfl
          rw [step, tokenizeAux_behind skipped (by omega), List.filter_cons_of_neg (by simp [trivia])]
          exact ih skipping (Nat.lt_trans shorter enough)
            (Nat.lt_of_lt_of_le shorter (Nat.le_of_lt_succ enoughMore))
      | false =>
          obtain ⟨solid, sameToken, moved⟩ := capturing_of_not_isSkipped skipping skipped
          obtain ⟨fuel, rfl⟩ : ∃ n, fuel = n + 1 := ⟨fuel - 1, by omega⟩
          simp only [tokenizeAux, sameToken, moved]
          cases ended : (r.token goal).isEndOfInput with
          | true => exact ⟨rfl, rfl⟩
          | false =>
              have shorter := after_rest_length_lt ended
              have skippingAfter : (r.after goal).options.captureTrivia = false := skipping
              have fits : (r.after goal).place.rest.length < fuel := by omega
              obtain ⟨sameTokens, sameLast⟩ := ih skippingAfter fits (by omega)
              refine ⟨?_, sameLast⟩
              rw [if_neg Bool.false_ne_true, if_neg Bool.false_ne_true]
              dsimp only
              rw [List.filter_cons_of_pos (by simp [solid]), sameTokens]

end Reader

/-! ## Lexers -/

namespace Lexer

/-- Pulls under one goal until a token is no trivia. -/
inductive Seeks (goal : Goal) : Lexer → Token → Lexer → Prop
  | found {lx after : Lexer} {token : Token} (pulled : lx.next goal = .ok (token, after))
      (solid : token.kind ∉ TokenKind.suppressed) : Seeks goal lx token after
  | passed {lx after last : Lexer} {trivia token : Token}
      (pulled : lx.next goal = .ok (trivia, after))
      (suppressed : trivia.kind ∈ TokenKind.suppressed) (seeks : Seeks goal after token last) :
      Seeks goal lx token last

/-- Two lexers side by side, under one goal after the other: what the first pulls, the
second finds as its next token that is no trivia, and then both stand at the same place
with the same diagnostics. -/
inductive SideBySide : List Goal → Lexer → Lexer → List Token → Lexer → Lexer → Prop
  | done {one other : Lexer} : SideBySide [] one other [] one other
  | pull {goal : Goal} {goals : List Goal} {one other afterOne afterOther lastOne lastOther : Lexer}
      {token : Token} {tokens : List Token} (pulled : one.next goal = .ok (token, afterOne))
      (found : Seeks goal other token afterOther) (place : afterOne.place = afterOther.place)
      (log : afterOne.log = afterOther.log)
      (rest : SideBySide goals afterOne afterOther tokens lastOne lastOther) :
      SideBySide (goal :: goals) one other (token :: tokens) lastOne lastOther

/-- A lexer whose reader captures what `r` skips finds the token of `r`. -/
theorem Coherent.seeks {lx : Lexer} (coherent : lx.Coherent) {r : Reader}
    (skipping : r.options.captureTrivia = false) (same : lx.reader = r.capturing) (goal : Goal) :
    ∃ last, Seeks goal lx (r.token goal) last ∧ last.Coherent ∧
      last.reader = (r.after goal).capturing ∧ last.lookahead = none := by
  induction r using Reader.trivia_induction goal generalizing lx with
  | kept r kept =>
      obtain ⟨solid, sameToken, moved⟩ := Reader.capturing_of_not_isSkipped skipping kept
      obtain ⟨after, pulled, coherentNext, reached, free⟩ := coherent.next goal
      rw [same, sameToken] at pulled
      rw [same, moved] at reached
      refine ⟨after, .found pulled ?_, coherentNext, reached, free⟩
      rw [← TokenKind.isTrivia_iff, solid]
      exact Bool.false_ne_true
  | skipped r skipped ih =>
      obtain ⟨trivia, moved, sameToken, sameAfter⟩ := Reader.capturing_of_isSkipped skipped
      obtain ⟨after, pulled, coherentNext, reached, -⟩ := coherent.next goal
      rw [same] at pulled
      rw [same, moved] at reached
      obtain ⟨last, seeks, coherentLast, done, free⟩ := ih coherentNext skipping reached
      rw [← sameToken] at seeks
      rw [← sameAfter] at done
      exact ⟨last, .passed pulled ((TokenKind.isTrivia_iff _).1 trivia) seeks, coherentLast, done,
        free⟩

/-- **Pulls side by side.** -/
theorem Coherent.sideBySide {one other : Lexer} (coherentOne : one.Coherent)
    (coherentOther : other.Coherent) (skipping : one.reader.options.captureTrivia = false)
    (same : other.reader = one.reader.capturing) (goals : List Goal) :
    ∃ tokens lastOne lastOther, SideBySide goals one other tokens lastOne lastOther ∧
      lastOne.Coherent ∧ lastOther.Coherent ∧
      lastOne.reader.options.captureTrivia = false ∧
      lastOther.reader = lastOne.reader.capturing := by
  induction goals generalizing one other with
  | nil => exact ⟨[], one, other, .done, coherentOne, coherentOther, skipping, same⟩
  | cons goal goals ih =>
      obtain ⟨afterOne, pulled, coherentOne, moved, free⟩ := coherentOne.next goal
      obtain ⟨afterOther, seeks, coherentOther, movedOther, freeOther⟩ :=
        coherentOther.seeks skipping same goal
      have sameNext : afterOther.reader = afterOne.reader.capturing := by rw [movedOther, moved]
      have skippingNext : afterOne.reader.options.captureTrivia = false := by
        rw [moved]
        exact skipping
      have place : afterOne.place = afterOther.place := by
        rw [← reader_place, ← reader_place, sameNext]
        rfl
      have log : afterOne.log = afterOther.log := by
        rw [log_of_none free, log_of_none freeOther, sameNext]
        rfl
      obtain ⟨tokens, lastOne, lastOther, rest, last⟩ :=
        ih coherentOne coherentOther skippingNext sameNext
      exact ⟨_, lastOne, lastOther, .pull pulled seeks place log rest, last⟩

theorem SideBySide.pulls {goals : List Goal} {one other lastOne lastOther : Lexer}
    {tokens : List Token} (side : SideBySide goals one other tokens lastOne lastOther) :
    one.pulls goals = .ok (tokens, lastOne) := by
  induction side with
  | done => rfl
  | pull pulled _ _ _ _ ih =>
      simp only [Lexer.pulls, pulled, ih, bind, Except.bind]
      rfl

/-- The tokens of `tokenize` carry their error where they are errors. -/
theorem Coherent.isError_of_mem_tokenize {lx : Lexer} (coherent : lx.Coherent) {goal : Goal}
    {tokens : List Token} {last : Lexer} (run : lx.tokenize goal = .ok (tokens, last)) {t : Token}
    (listed : t ∈ tokens) (failed : t.error.isSome = true) : t.kind = .error := by
  obtain ⟨_, again, -⟩ := coherent.tokenize goal
  rw [run] at again
  cases again
  have emitted := (Reader.Moves.tokenizeAux coherent.sound goal _).emits t listed
  obtain ⟨_, p, -, rfl⟩ := emitted
  rw [← Place.isError_token] at failed
  exact beq_iff_eq.1 failed

/-- **Suppressing trivia is filtering.** Of two lexers over one source, one skips trivia
and the other captures them. Whatever the goals, the two go side by side: the token that
the first pulls is the next one that the second finds to be no trivia, and behind it
they are at the same place with the same diagnostics. From there on, what the first
tokenizes is what the second tokenizes without white space and comments; line
terminators and comments that do not end are left in. -/
theorem suppressing_trivia_filters (name source : String) (options : Options)
    (short : source.utf8ByteSize < counterBound - 1) (goals : List Goal) :
    ∃ tokens lx other,
      SideBySide goals (create name source { options with captureTrivia := false })
        (create name source { options with captureTrivia := true }) tokens lx other ∧
      (create name source { options with captureTrivia := false }).pulls goals =
        .ok (tokens, lx) ∧
      ∀ goal, ∃ kept last all lastAll,
        lx.tokenize goal = .ok (kept, last) ∧ other.tokenize goal = .ok (all, lastAll) ∧
        kept = all.filter (·.kind ∉ TokenKind.suppressed) ∧
        last.place = lastAll.place ∧ last.log = lastAll.log ∧
        ∀ t ∈ all, t.kind = .lineTerminator ∨ t.error = some .unterminatedComment → t ∈ kept := by
  obtain ⟨tokens, lx, other, side, coherent, coherentOther, skipping, same⟩ :=
    (create_coherent name { options with captureTrivia := false } short).sideBySide
      (create_coherent name { options with captureTrivia := true } short) rfl rfl goals
  refine ⟨tokens, lx, other, side, side.pulls, ?_⟩
  intro goal
  obtain ⟨last, run, -, reached, free⟩ := coherent.tokenize goal
  obtain ⟨lastAll, runAll, -, reachedAll, freeAll⟩ := coherentOther.tokenize goal
  obtain ⟨filtered, sameLast⟩ := @Reader.tokenizeAux_capturing lx.reader goal _ _ skipping
    (Nat.lt_succ_self _) (Nat.lt_succ_self _)
  have lasts : lastAll.reader = last.reader.capturing := by
    rw [reachedAll, reached, same]
    exact sameLast
  have kept : (lx.reader.tokenize goal).1 =
      (other.reader.tokenize goal).1.filter (·.kind ∉ TokenKind.suppressed) := by
    rw [same]
    exact filtered.trans (List.filter_congr fun t _ => by simp [← TokenKind.isTrivia_iff])
  refine ⟨_, last, _, lastAll, run, runAll, kept, ?_, ?_, ?_⟩
  · rw [← reader_place, ← reader_place, lasts]
    rfl
  · rw [log_of_none free, log_of_none freeAll, lasts]
    rfl
  · intro t listed stays
    rw [kept]
    refine List.mem_filter.2 ⟨listed, ?_⟩
    rcases stays with terminator | unclosed
    · rw [terminator]
      decide
    · rw [coherentOther.isError_of_mem_tokenize runAll listed (by rw [unclosed]; rfl)]
      decide

/-- White space and a comment stand before the line terminator, and a comment that does
not end behind it. -/
theorem suppressing_trivia_filters_unclosed :
    "a /*b*/\n/*".utf8ByteSize < counterBound - 1 ∧
      ∃ tokens lx other,
        SideBySide [.div, .regExp] (create "a.js" "a /*b*/\n/*" { captureTrivia := false })
          (create "a.js" "a /*b*/\n/*" { captureTrivia := true }) tokens lx other ∧
        tokens.map (·.lexeme) = ["a", "\n"] ∧
        ∃ kept last all lastAll,
          lx.tokenize .div = .ok (kept, last) ∧ other.tokenize .div = .ok (all, lastAll) ∧
          kept.map (·.lexeme) = ["/*"] ∧ kept = all.filter (·.kind ∉ TokenKind.suppressed) ∧
          last.place = lastAll.place ∧ last.log = lastAll.log := by
  obtain ⟨tokens, lx, other, side, pulled, tokenized⟩ :=
    suppressing_trivia_filters "a.js" "a /*b*/\n/*" {} (by decide) [.div, .regExp]
  obtain ⟨_, _, evaluated, lexemes, kept, last, run, unclosed⟩ :
      ∃ tokens lx, (create "a.js" "a /*b*/\n/*" { captureTrivia := false }).pulls
          [.div, .regExp] = .ok (tokens, lx) ∧ tokens.map (·.lexeme) = ["a", "\n"] ∧
        ∃ kept last, lx.tokenize .div = .ok (kept, last) ∧ kept.map (·.lexeme) = ["/*"] :=
    ⟨_, _, rfl, by decide, _, _, rfl, by decide⟩
  rw [evaluated] at pulled
  cases pulled
  obtain ⟨_, _, all, lastAll, again, runAll, filtered, place, log, -⟩ := tokenized .div
  rw [run] at again
  cases again
  exact ⟨by decide, _, _, other, side, lexemes, _, _, all, lastAll, run, runAll, unclosed, filtered,
    place, log⟩

end Lexer

end GoalLexer
