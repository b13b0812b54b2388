import GoalLexer.Proofs.Commands
import GoalLexer.Proofs.Trivia

/-!
# The token that a pull gives

Whatever a caller has done with a lexer before, its next token under a goal is the piece
that is scanned from one text: the unread text, without the trivia in front where trivia
are skipped. `Lexer.PullsAt` names that text and `Token.Carries` the piece, so that what
a lexer pulls can be read off `Piece.scan`: `Lexer.exists_pull`.
-/

set_option autoImplicit false

namespace GoalLexer

/-- The token is that of a piece, wherever it stands. -/
structure Token.Carries (t : Token) (piece : Piece) : Prop where
  kind : t.kind = piece.kind
  lexeme : t.lexeme.toList = piece.lexeme
  error : t.error = piece.error?

theorem Place.token_carries (options : Options) (goal : Goal) (name : String) (p : Place) :
    (p.token options goal name).Carries (Piece.scan options goal p.rest) :=
  ⟨rfl, p.token_lexeme options goal name, rfl⟩

namespace Lexer

/-- A pull under a goal gives `token`. The token starts `cs`, the text to be tokenized
first, and leaves the rest of it unread. -/
structure PullsAt (lx : Lexer) (options : Options) (goal : Goal) (cs : List Char)
    (token : Token) (after : Lexer) : Prop where
  pulled : lx.next goal = .ok (token, after)
  first : FirstText options lx.place.rest cs
  split : cs = token.lexeme.toList ++ after.place.rest

theorem Aligned.pullsAt {name source : String} {options : Options} {lx : Lexer}
    (aligned : Aligned name source options lx) (goal : Goal) :
    ∃ cs token after, lx.PullsAt options goal cs token after ∧
      token.Carries (Piece.scan options goal cs) := by
  obtain ⟨after, pulled, -, moved, -⟩ := aligned.next goal
  have sameOptions : lx.reader.options = options := by rw [reader_options, aligned.options]
  have start : lx.reader.next goal = lx.place.wanted options goal := by
    rw [Reader.next, sameOptions, reader_place]
  have token : lx.reader.token goal =
      (lx.place.wanted options goal).token options goal lx.reader.name := by
    rw [Reader.token, start, sameOptions]
  have behind : after.place = (lx.place.wanted options goal).past options goal := by
    rw [moved, Reader.after_place, start, sameOptions]
  rw [token] at pulled
  refine ⟨_, _, after, ⟨pulled, lx.place.firstText_wanted options goal, ?_⟩,
    Place.token_carries options goal _ _⟩
  rw [behind]
  exact (lx.place.wanted options goal).token_append_past options goal _

/-- What a pull gives is known by the text it starts from. -/
theorem Aligned.carries {name source : String} {options : Options} {lx after : Lexer}
    (aligned : Aligned name source options lx) {goal : Goal} {cs : List Char} {token : Token}
    (pull : lx.PullsAt options goal cs token after) :
    token.Carries (Piece.scan options goal cs) := by
  obtain ⟨cs', token', after', pull', carries⟩ := aligned.pullsAt goal
  have same := pull.pulled.symm.trans pull'.pulled
  cases same
  rw [pull.split, ← pull'.split]
  exact carries

/-- A pull starts at the first text, and leaves an aligned lexer. -/
theorem Aligned.pullsAt_first {name source : String} {options : Options} {lx : Lexer}
    (aligned : Aligned name source options lx) {cs : List Char}
    (first : FirstText options lx.place.rest cs) (goal : Goal) :
    ∃ token after, lx.PullsAt options goal cs token after ∧
      token.Carries (Piece.scan options goal cs) ∧ Aligned name source options after := by
  obtain ⟨cs', token, after, pull, carries⟩ := aligned.pullsAt goal
  obtain rfl : cs = cs' := first.unique pull.first
  obtain ⟨after', pulled, alignedNext, -⟩ := aligned.next goal
  have same := pull.pulled.symm.trans pulled
  cases same
  exact ⟨_, after, pull, carries, alignedNext⟩

/-- **After any commands** a pull gives the piece of the text to be tokenized first. -/
theorem exists_pull (name : String) {source : String} (options : Options)
    (commands : List Command) (goal : Goal) (short : source.utf8ByteSize < counterBound - 1) :
    ∃ replies lx, (create name source options).drive commands = .ok (replies, lx) ∧
      ∃ cs token after, lx.PullsAt options goal cs token after ∧
        token.Carries (Piece.scan options goal cs) := by
  obtain ⟨replies, lx, run, aligned⟩ := (create_aligned name options short).drive commands
  exact ⟨replies, lx, run, aligned.pullsAt goal⟩

end Lexer

end GoalLexer
