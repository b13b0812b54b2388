import GoalLexer.Proofs.Pulled
import GoalLexer.Proofs.Repetition

/-!
# What is rejected

A character that starts no token is an error of its own, `unexpectedInput`. Which
characters these are (`StartsNoToken`) is said by the character classes and the table of
punctuators alone: what follows the character, the goal and the options play no part.

The choice of a production falls through to the rejecting one for these characters and
no others (`Production.choose_eq_unexpected_iff`): under every goal a slash and a closing
brace are read in some way, and every character that starts a punctuator is one itself.
No other production makes this error (`Production.run_error?_eq_unexpectedInput_iff`).
`Lexer.rejection_depends_on_first_char` is the statement for lexers.
-/

set_option autoImplicit false

namespace GoalLexer

/-- The token rejects a character that starts none. -/
def Token.IsRejection (t : Token) : Prop := t.kind = .error ∧ t.error = some .unexpectedInput

namespace Production

/-- **Rejection is chosen** by the first character alone. -/
theorem choose_eq_unexpected_iff (options : Options) (goal : Goal) {c : Char} {cs : List Char} :
    choose options goal (c :: cs) = .unexpected ↔ StartsNoToken c := by
  rw [choose_eq_iff]
  constructor
  · intro applies
    cases applies with
    | unexpected starts => exact starts
  · exact .unexpected

/-- Only the rejecting production rejects. -/
theorem run_error?_eq_unexpectedInput_iff (options : Options) (production : Production)
    (cs : List Char) :
    (production.run options cs).error? = some .unexpectedInput ↔ production = .unexpected := by
  cases production with
  | unexpected => simp [run, Piece.unexpected, Piece.error?]
  | number =>
      rcases Piece.number_isQuoted cs with good | bad
      · simp [run, Piece.error?, good]
      · simp [run, Piece.error?, bad]
  | multiLineComment =>
      simp only [run, Piece.multiLineComment]
      split <;> simp [Piece.error?]
  | string =>
      cases cs with
      | nil => simp [run, Piece.stringLiteral, Piece.error?]
      | cons quote cs =>
          simp only [run, Piece.stringLiteral]
          split <;> simp [Piece.error?]
  | template =>
      simp only [run, Piece.template, Piece.templatePiece]
      split <;> simp [Piece.error?]
  | templateContinuation =>
      simp only [run, Piece.templateContinuation, Piece.templatePiece]
      split <;> simp [Piece.error?]
  | regex =>
      simp only [run, Piece.regex]
      split <;> simp [Piece.error?]
  | _ => simp [run, Piece.error?, Piece.whiteSpace, Piece.lineTerminator, Piece.singleLineComment,
      Piece.punctuator, Piece.word, Piece.divPunctuator, Piece.single]

end Production

/-- **A scan rejects** by the first character alone, and takes only this. -/
theorem Piece.scan_error?_eq_unexpectedInput_iff (options : Options) (goal : Goal) {c : Char}
    {cs : List Char} :
    (scan options goal (c :: cs)).error? = some .unexpectedInput ↔ StartsNoToken c := by
  rw [scan, Production.run_error?_eq_unexpectedInput_iff, Production.choose_eq_unexpected_iff]

theorem Piece.scan_of_startsNoToken (options : Options) (goal : Goal) {c : Char}
    (starts : StartsNoToken c) (cs : List Char) :
    scan options goal (c :: cs) = ⟨[c], .error .unexpectedInput⟩ := by
  rw [scan, (Production.choose_eq_unexpected_iff options goal).2 starts]
  rfl

namespace Lexer

/-- The token of a pull is a rejection exactly where its text starts with a character that
starts no token. -/
theorem Aligned.isRejection_iff {name source : String} {options : Options} {lx after : Lexer}
    (aligned : Aligned name source options lx) {goal : Goal} {c : Char} {cs : List Char}
    {token : Token} (pull : lx.PullsAt options goal cs token after) (first : cs.head? = some c) :
    token.IsRejection ↔ StartsNoToken c := by
  obtain ⟨rest, rfl⟩ := List.head?_eq_some_iff.1 first
  obtain ⟨sameKind, -, sameError⟩ := aligned.carries pull
  constructor
  · rintro ⟨-, rejected⟩
    rw [sameError] at rejected
    exact (Piece.scan_error?_eq_unexpectedInput_iff options goal).1 rejected
  · intro starts
    rw [Piece.scan_of_startsNoToken options goal starts] at sameKind sameError
    exact ⟨sameKind, sameError⟩

/-- **Rejection depends on one character.** After any commands, let `cs` be the text to be
tokenized first. If it is not empty, the token is a rejection exactly if the first
character starts no token, and then it takes this character alone. So whatever another
lexer has been asked, under whatever goal and options and whatever follows: at a text that
starts with the same character it rejects it or accepts it too. -/
theorem rejection_depends_on_first_char (name source : String) (options : Options)
    (commands : List Command) (goal : Goal) (short : source.utf8ByteSize < counterBound - 1) :
    ∃ replies lx, (create name source options).drive commands = .ok (replies, lx) ∧
      ∃ cs token after, lx.PullsAt options goal cs token after ∧
        ∀ c rest, cs = c :: rest →
          (token.IsRejection ↔ StartsNoToken c) ∧
          (token.IsRejection → token.lexeme.toList = [c] ∧ after.place.rest = rest) ∧
          (∀ (name' source' : String) (options' : Options) (commands' : List Command)
            (goal' : Goal) replies' lx' cs' token' after',
            source'.utf8ByteSize < counterBound - 1 →
            (create name' source' options').drive commands' = .ok (replies', lx') →
            lx'.PullsAt options' goal' cs' token' after' → cs'.head? = some c →
            (token'.IsRejection ↔ token.IsRejection)) := by
  obtain ⟨replies, lx, run, aligned⟩ := (create_aligned name options short).drive commands
  obtain ⟨cs, token, after, pull, carries⟩ := aligned.pullsAt goal
  refine ⟨replies, lx, run, cs, token, after, pull, ?_⟩
  rintro c rest rfl
  have rejects := aligned.isRejection_iff pull rfl
  refine ⟨rejects, ?_, ?_⟩
  · intro rejected
    have lexeme := carries.lexeme
    rw [Piece.scan_of_startsNoToken options goal (rejects.1 rejected)] at lexeme
    refine ⟨lexeme, ?_⟩
    have split := pull.split
    rw [lexeme] at split
    exact (List.cons.inj split).2.symm
  · intro name' source' options' commands' goal' replies' lx' cs' token' after' short' run' pull'
      first
    obtain ⟨_, _, again, aligned'⟩ := (create_aligned name' options' short').drive commands'
    rw [run'] at again
    cases again
    rw [rejects, aligned'.isRejection_iff pull' first]

/-- A number sign behind a skipped comment, before a text that would start a number. -/
theorem rejection_depends_on_first_char_hash :
    "a /*1*/#1".utf8ByteSize < counterBound - 1 ∧
      ∃ replies lx, (create "a.js" "a /*1*/#1" { captureTrivia := false }).drive
          [.ask (.next .div), .ask (.peek .regExp)] = .ok (replies, lx) ∧
        ∃ token after, lx.next .templateTail = .ok (token, after) ∧ token.IsRejection ∧
          token.lexeme.toList = ['#'] ∧ after.place.rest = ['1'] := by
  obtain ⟨replies, lx, run, cs, token, after, pull, rejection⟩ :=
    rejection_depends_on_first_char "a.js" "a /*1*/#1" { captureTrivia := false }
      [.ask (.next .div), .ask (.peek .regExp)] .templateTail (by decide)
  obtain ⟨_, _, evaluated, _, _, pulled, text⟩ :
      ∃ replies lx, (create "a.js" "a /*1*/#1" { captureTrivia := false }).drive
          [.ask (.next .div), .ask (.peek .regExp)] = .ok (replies, lx) ∧
        ∃ token after, lx.next .templateTail = .ok (token, after) ∧
          token.lexeme.toList ++ after.place.rest = ['#', '1'] :=
    ⟨_, _, rfl, _, _, rfl, by decide⟩
  rw [evaluated] at run
  cases run
  have same := pull.pulled
  rw [pulled] at same
  cases same
  obtain ⟨rejects, takes, -⟩ := rejection '#' ['1'] (pull.split.trans text)
  have rejected := rejects.2 (by decide +kernel)
  exact ⟨by decide, _, _, evaluated, _, _, pulled, rejected, takes rejected⟩

end Lexer

end GoalLexer
