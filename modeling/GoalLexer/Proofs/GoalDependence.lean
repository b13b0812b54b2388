import GoalLexer.Proofs.Commands
import GoalLexer.Proofs.Trivia

/-!
# What depends on the goal

Only a slash that opens no comment and a closing brace are read differently under
different goals, and these only where the goals differ about them: `SlashDiffers` and
`BraceDiffers`. Everywhere else the same production is chosen
(`Production.choose_congr`), and trivia are passed over alike under all goals
(`Place.wanted_congr`). `Lexer.goals_matter_at_slash_and_brace` compares the pulls of
a lexer under two goals.
-/

set_option autoImplicit false

namespace GoalLexer

/-- The text starts with a slash that opens no comment, and the goals differ about
what it is. -/
def SlashDiffers (g h : Goal) (cs : List Char) : Prop :=
  g.allowsRegex ≠ h.allowsRegex ∧
    ∃ rest, cs = '/' :: rest ∧ rest.head? ≠ some '/' ∧ rest.head? ≠ some '*'

/-- The text starts with a closing brace, and the goals differ about what it is. -/
def BraceDiffers (g h : Goal) (cs : List Char) : Prop :=
  g.allowsTemplateTail ≠ h.allowsTemplateTail ∧ cs.head? = some '}'

/-- Of two kinds one is `plain` and the other among `others`: the first is plain,
unless they are swapped. -/
def Opposed (swapped : Bool) (plain : TokenKind) (others : List TokenKind)
    (first second : TokenKind) : Prop :=
  if swapped then second = plain ∧ first ∈ others else first = plain ∧ second ∈ others

theorem opposed_of_ne {a b : Bool} (differ : a ≠ b) {plain : TokenKind} {others : List TokenKind}
    {first second : TokenKind} (inFirst : first ∈ if a then others else [plain])
    (inSecond : second ∈ if b then others else [plain]) : Opposed a plain others first second := by
  cases a with
  | false =>
      cases b with
      | false => exact absurd rfl differ
      | true => exact ⟨List.mem_singleton.1 inFirst, inSecond⟩
  | true =>
      cases b with
      | false => exact ⟨List.mem_singleton.1 inSecond, inFirst⟩
      | true => exact absurd rfl differ

/-! ## The choice of a production -/

namespace Production

variable (options : Options)

/-- **Elsewhere the goal does not matter.** -/
theorem choose_congr {g h : Goal} {cs : List Char} (slash : ¬ SlashDiffers g h cs)
    (brace : ¬ BraceDiffers g h cs) : choose options g cs = choose options h cs := by
  have braceAlike : cs.head? = some '}' → g.allowsTemplateTail = h.allowsTemplateTail := by
    intro first
    exact Classical.byContradiction fun differ => brace ⟨differ, first⟩
  have slashAlike : ∀ rest, cs = '/' :: rest → rest.head? ≠ some '/' → rest.head? ≠ some '*' →
      g.allowsRegex = h.allowsRegex := by
    intro rest starts notLine notBlock
    exact Classical.byContradiction fun differ => slash ⟨differ, rest, starts, notLine, notBlock⟩
  have applies := choose_applies options h cs
  generalize choose options h cs = production at applies
  apply Applies.choose_eq
  cases applies with
  | templateContinuation resumes => exact .templateContinuation ((braceAlike rfl).trans resumes)
  | rightBrace closes => exact .rightBrace ((braceAlike rfl).trans closes)
  | division divides notLine notBlock =>
      have same := slashAlike _ rfl notLine notBlock
      rw [Goal.allowsDiv_eq, ← same, ← Goal.allowsDiv_eq] at divides
      exact .division divides notLine notBlock
  | regex opens notLine notBlock =>
      exact .regex ((slashAlike _ rfl notLine notBlock).trans opens) notLine notBlock
  | _ =>
      -- no other production asks for the goal
      constructor <;> assumption

/-- Trivia start with neither a closing brace nor a slash that opens no comment. -/
theorem choose_congr_of_isTrivia {g : Goal} {cs : List Char}
    (trivia : (choose options g cs).isTrivia = true) (h : Goal) :
    choose options g cs = choose options h cs := by
  have applies := choose_applies options g cs
  generalize choose options g cs = production at applies trivia
  refine (Applies.choose_eq ?_).symm
  cases applies with
  | whiteSpace white => exact .whiteSpace white
  | singleLineComment => exact .singleLineComment
  | multiLineComment => exact .multiLineComment
  | _ => cases trivia

end Production

/-! ## Places and tokens -/

namespace Place

variable {options : Options} {g h : Goal}

theorem piece_congr {p : Place} (slash : ¬ SlashDiffers g h p.rest)
    (brace : ¬ BraceDiffers g h p.rest) : p.piece options g = p.piece options h := by
  unfold piece Piece.scan
  rw [Production.choose_congr options slash brace]

theorem isSkipped_congr (p : Place) : p.isSkipped options g = p.isSkipped options h := by
  cases captures : options.captureTrivia with
  | true => simp [isSkipped, captures]
  | false =>
      rw [Bool.eq_iff_iff, ← Decidable.not_iff_not, Bool.not_eq_true, Bool.not_eq_true,
        isSkipped_eq_false_iff options g captures, isSkipped_eq_false_iff options h captures]

/-- **The same trivia** are passed over under all goals. -/
theorem wanted_congr (p : Place) : p.wanted options g = p.wanted options h := by
  apply wanted_eq_of_skips_alike options h isSkipped_congr
  intro p skipped
  have trivia : (p.piece options h).kind.isTrivia = true := (Bool.and_eq_true_iff.1 skipped).1
  have samePiece : p.piece options g = p.piece options h := by
    unfold piece Piece.scan
    rw [Production.choose_congr_of_isTrivia options (Production.isTrivia_of_run trivia) g]
  unfold past
  rw [samePiece]

theorem token_kind_mem (options : Options) (goal : Goal) (name : String) (p : Place) :
    (p.token options goal name).kind ∈ (Production.choose options goal p.rest).kinds :=
  Production.run_kind_mem options _ p.rest

/-- A slash that the goals read differently divides under one of them. -/
theorem opposed_of_slash {p : Place} (name : String) (differs : SlashDiffers g h p.rest) :
    Opposed g.allowsRegex .divPunctuator [.regularExpressionLiteral, .error]
      (p.token options g name).kind (p.token options h name).kind := by
  obtain ⟨differ, rest, unread, notLine, notBlock⟩ := differs
  have kinds : ∀ goal : Goal, (p.token options goal name).kind ∈
      if goal.allowsRegex then [.regularExpressionLiteral, .error] else [.divPunctuator] := by
    intro goal
    have listed := p.token_kind_mem options goal name
    rw [unread, Production.choose_of_slash options goal notLine notBlock] at listed
    split
    · rwa [if_pos ‹_›] at listed
    · rwa [if_neg ‹_›] at listed
  exact opposed_of_ne differ (kinds g) (kinds h)

/-- A brace that the goals read differently is a punctuator under one of them. -/
theorem opposed_of_brace {p : Place} (name : String) (differs : BraceDiffers g h p.rest) :
    Opposed g.allowsTemplateTail .rightBracePunctuator [.templateTail, .templateMiddle, .error]
      (p.token options g name).kind (p.token options h name).kind := by
  obtain ⟨differ, first⟩ := differs
  obtain ⟨rest, unread⟩ := List.head?_eq_some_iff.1 first
  have kinds : ∀ goal : Goal, (p.token options goal name).kind ∈
      if goal.allowsTemplateTail then [.templateTail, .templateMiddle, .error]
      else [.rightBracePunctuator] := by
    intro goal
    have listed := p.token_kind_mem options goal name
    rw [unread, Production.choose_of_brace options goal rest] at listed
    split
    · rwa [if_pos ‹_›] at listed
    · rwa [if_neg ‹_›] at listed
  exact opposed_of_ne differ (kinds g) (kinds h)

end Place

/-! ## Pulls under two goals -/

namespace Lexer

/-- Pulls that start at the same place and take the same piece differ in nothing but
the trace. -/
theorem scanned_congr {lx : Lexer} {g h : Goal}
    (samePlace : lx.cursor.place.wanted lx.options g = lx.cursor.place.wanted lx.options h)
    (samePiece : (lx.cursor.place.wanted lx.options g).piece lx.options g =
      (lx.cursor.place.wanted lx.options h).piece lx.options h) :
    (lx.scanned g).cursor = (lx.scanned h).cursor ∧ (lx.scanned g).log = (lx.scanned h).log := by
  constructor
  · simp only [scanned, traceToken, took, moveTo, Cursor.restore]
    rw [samePiece, samePlace]
  · simp only [scanned, traceToken, took, moveTo, Cursor.restore, Place.token]
    rw [samePiece, samePlace]

/-- **Only slash and brace depend on the goal.** After any commands that leave no
look-ahead, take any two goals, and let `cs` be the text to be tokenized first. A pull
under the one and a pull under the other start at `cs`. They give the same token,
cursor and diagnostics, unless `cs` starts with a slash that opens no comment or with
a closing brace, and the goals differ about it. Then exactly one of the tokens is the
punctuator, and the other is a regular expression, or the end or middle of a template,
or an error. -/
theorem goals_matter_at_slash_and_brace (name source : String) (options : Options)
    (commands : List Command) (g h : Goal) (short : source.utf8ByteSize < counterBound - 1) :
    ∃ replies lx, (create name source options).drive commands = .ok (replies, lx) ∧
      (lx.lookahead = none → ∃ cs one afterOne other afterOther,
        lx.next g = .ok (one, afterOne) ∧ lx.next h = .ok (other, afterOther) ∧
        FirstText options lx.place.rest cs ∧
        cs = one.lexeme.toList ++ afterOne.place.rest ∧
        cs = other.lexeme.toList ++ afterOther.place.rest ∧
        (¬ SlashDiffers g h cs → ¬ BraceDiffers g h cs →
          one = other ∧ afterOne.cursor = afterOther.cursor ∧ afterOne.log = afterOther.log) ∧
        (SlashDiffers g h cs →
          Opposed g.allowsRegex .divPunctuator [.regularExpressionLiteral, .error]
            one.kind other.kind) ∧
        (BraceDiffers g h cs →
          Opposed g.allowsTemplateTail .rightBracePunctuator
            [.templateTail, .templateMiddle, .error] one.kind other.kind)) := by
  obtain ⟨replies, lx, run, aligned⟩ := (create_aligned name options short).drive commands
  refine ⟨replies, lx, run, ?_⟩
  intro free
  have room := aligned.sound.room
  have here : lx.place = lx.cursor.place := by
    unfold place
    rw [free]
  rw [reader_of_none free] at room
  have pulled : ∀ goal, lx.next goal =
      .ok ((lx.cursor.place.wanted options goal).token options goal lx.name, lx.scanned goal) := by
    intro goal
    rw [Lexer.next, free, ← aligned.options]
    exact scan_eq room goal
  have past : ∀ goal, (lx.scanned goal).place =
      (lx.cursor.place.wanted options goal).past options goal := by
    intro goal
    rw [← reader_place, reader_scanned free goal, reader_of_none free, ← aligned.options]
    rfl
  have same : lx.cursor.place.wanted options g = lx.cursor.place.wanted options h :=
    Place.wanted_congr lx.cursor.place
  refine ⟨(lx.cursor.place.wanted options g).rest, _, _, _, _, pulled g, pulled h, ?_, ?_, ?_, ?_,
    ?_, ?_⟩
  · rw [here]
    exact lx.cursor.place.firstText_wanted options g
  · rw [past]
    exact (lx.cursor.place.wanted options g).token_append_past options g lx.name
  · rw [past, same]
    exact (lx.cursor.place.wanted options h).token_append_past options h lx.name
  · intro slash brace
    have samePiece : (lx.cursor.place.wanted options g).piece options g =
        (lx.cursor.place.wanted options h).piece options h := by
      rw [← same]
      exact Place.piece_congr slash brace
    refine ⟨?_, ?_⟩
    · unfold Place.token
      rw [samePiece, same]
    · rw [← aligned.options] at same samePiece
      exact scanned_congr same samePiece
  · intro differs
    rw [← same]
    exact Place.opposed_of_slash lx.name differs
  · intro differs
    rw [← same]
    exact Place.opposed_of_brace lx.name differs

/-- Behind a comment that is skipped the slash is read both ways. -/
theorem goals_matter_at_slash_and_brace_comment :
    "a/**//é\n".utf8ByteSize < counterBound - 1 ∧
      ∃ replies lx,
        (create "a.js" "a/**//é\n" { captureTrivia := false }).drive
            [.ask (.peek .regExp), .truncate 0, .ask (.next .div)] = .ok (replies, lx) ∧
        lx.lookahead = none ∧
        ∃ divided afterDivided opened afterOpened,
          lx.next .div = .ok (divided, afterDivided) ∧
          lx.next .regExp = .ok (opened, afterOpened) ∧
          divided.kind = .divPunctuator ∧
          opened.kind ∈ [.regularExpressionLiteral, .error] := by
  obtain ⟨replies, lx, run, pulls⟩ := goals_matter_at_slash_and_brace "a.js" "a/**//é\n"
    { captureTrivia := false } [.ask (.peek .regExp), .truncate 0, .ask (.next .div)] .div .regExp
    (by decide)
  obtain ⟨_, _, evaluated, free, _, _, pulled, text⟩ :
      ∃ replies lx, (create "a.js" "a/**//é\n" { captureTrivia := false }).drive
          [.ask (.peek .regExp), .truncate 0, .ask (.next .div)] = .ok (replies, lx) ∧
        lx.lookahead = none ∧
        ∃ token after, lx.next .div = .ok (token, after) ∧
          token.lexeme.toList ++ after.place.rest = ['/', 'é', '\n'] :=
    ⟨_, _, rfl, rfl, _, _, rfl, by decide⟩
  rw [evaluated] at run
  cases run
  obtain ⟨cs, divided, afterDivided, opened, afterOpened, dividing, opening, -, first, -, -, slash,
    -⟩ := pulls free
  rw [pulled] at dividing
  cases dividing
  have differs : SlashDiffers .div .regExp cs := by
    rw [first, text]
    exact ⟨by decide, ['é', '\n'], rfl, by decide, by decide⟩
  obtain ⟨isDiv, isRegex⟩ := slash differs
  exact ⟨by decide, _, _, evaluated, free, _, _, opened, afterOpened, pulled, opening, isDiv,
    isRegex⟩

end Lexer

end GoalLexer
