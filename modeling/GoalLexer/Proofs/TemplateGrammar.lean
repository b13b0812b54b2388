import GoalLexer.Proofs.NestedTemplates
import GoalLexer.Proofs.Pulled

/-!
# Template pieces are their grammar

A piece of a template literal is an opening, a chunk and an end: `Opening.IsPiece`. The
opening is a backtick, or a brace that resumes the literal; the end is a backtick or the
opening of a substitution.

Scanning finds the piece that a text starts with (`Piece.scan_of_isPiece`), so there is at
most one, and where it finds an end there is one (`Piece.exists_chunk_of_templateBody`).
A text without one is unterminated and taken as a whole. `Lexer.pulls_template_pieces` is
the statement for lexers.
-/

set_option autoImplicit false

namespace GoalLexer

namespace Opening

/-- The text is a template piece: the opening, a chunk, and one of the two ends. -/
def IsPiece (opening : Opening) (stop : Piece.TemplateEnd) (text : List Char) : Prop :=
  ∃ chunk : Chunk, text = opening.char :: (chunk.chars ++ stop.chars)

/-- The error for a piece that has no end. -/
def unterminated : Opening → LexError
  | backtick => .unterminatedTemplate
  | brace => .unterminatedTemplateTail

/-- Whether the opening opens a piece under a goal. -/
def Opens (goal : Goal) : Opening → Prop
  | backtick => True
  | brace => goal.allowsTemplateTail = true

theorem kind_injective (opening : Opening) {stop other : Piece.TemplateEnd}
    (same : opening.kind stop = opening.kind other) : stop = other := by
  revert same
  cases opening <;> cases stop <;> cases other <;> decide

end Opening

namespace Piece

/-- Where an end is found, a chunk leads to it. -/
theorem exists_chunk_of_templateBody {cs body : List Char} {stop : TemplateEnd}
    (found : templateBody cs = some (body, stop)) :
    ∃ chunk : Chunk, body = chunk.chars ++ stop.chars := by
  fun_induction templateBody cs generalizing body stop with
  | case1 => cases found
  | case2 c cs tick =>
      cases found
      exact ⟨⟨[], rfl⟩, by rw [beq_iff_eq.1 tick]; rfl⟩
  | case3 c cs tick opens =>
      cases found
      exact ⟨⟨[], rfl⟩, rfl⟩
  | case4 => cases found
  | case5 c tick escape escaped cs opens ih =>
      obtain ⟨⟨inner, ending⟩, deeper, same⟩ := Option.map_eq_some_iff.1 found
      cases same
      obtain ⟨chunk, rfl⟩ := ih deeper
      exact ⟨⟨c :: escaped :: chunk.chars, by simp [isChunk, escape, chunk.isChunk]⟩, rfl⟩
  | case6 c cs tick opens escape ih =>
      obtain ⟨⟨inner, ending⟩, deeper, same⟩ := Option.map_eq_some_iff.1 found
      cases same
      obtain ⟨chunk, rfl⟩ := ih deeper
      -- the chunk is a beginning of the text, so no substitution opens in it either
      have plain : ¬ (c == '$' && chunk.chars.head? == some '{') = true := by
        intro dollar
        obtain ⟨more, rfl⟩ := templateBody_isPrefix deeper
        cases text : chunk.chars with
        | nil => simp [text] at dollar
        | cons d others =>
            rw [text] at dollar opens
            exact opens dollar
      refine ⟨⟨c :: chunk.chars, ?_⟩, rfl⟩
      rw [Bool.not_eq_true] at tick escape plain
      rw [isChunk.eq_def]
      simp [bne, tick, escape, plain, chunk.isChunk]

variable (options : Options) {goal : Goal} {opening : Opening}

/-- What is scanned from an opening. -/
theorem scan_opening (opens : opening.Opens goal) (rest : List Char) :
    scan options goal (opening.char :: rest) =
      templatePiece (opening.kind .backtick) (opening.kind .substitution) opening.unterminated
        (opening.char :: rest) := by
  cases opening with
  | backtick =>
      rw [Opening.char, Production.Applies.template.scan_eq]
      rfl
  | brace =>
      have resumes : goal.allowsTemplateTail = true := opens
      rw [Opening.char, (Production.Applies.templateContinuation resumes).scan_eq]
      rfl

/-- **A template piece** that stands first is scanned. -/
theorem scan_of_isPiece (opens : opening.Opens goal) {stop : TemplateEnd} {text cs : List Char}
    (piece : opening.IsPiece stop text) (starts : text <+: cs) :
    scan options goal cs = ⟨text, .ok (opening.kind stop)⟩ := by
  obtain ⟨chunk, rfl⟩ := piece
  obtain ⟨rest, rfl⟩ := starts
  have resumes : opening = .brace → goal.allowsTemplateTail = true := by
    rintro rfl
    exact opens
  have found := scan_of_opening options rest resumes chunk stop
  simpa using found

/-- **Without a template piece** all the rest is an error. -/
theorem scan_of_no_piece (opens : opening.Opens goal) {rest : List Char}
    (none : ∀ stop text, opening.IsPiece stop text → ¬ text <+: opening.char :: rest) :
    scan options goal (opening.char :: rest) =
      ⟨opening.char :: rest, .error opening.unterminated⟩ := by
  cases found : templateBody rest with
  | none =>
      rw [scan_opening options opens]
      simp [templatePiece, found]
  | some result =>
      obtain ⟨body, stop⟩ := result
      obtain ⟨chunk, same⟩ := exists_chunk_of_templateBody found
      have starts := templateBody_isPrefix found
      rw [same] at starts
      exact absurd (List.cons_prefix_cons.2 ⟨rfl, starts⟩) (none stop _ ⟨chunk, rfl⟩)

end Piece

namespace Lexer

/-- **Template pieces are exactly their grammar.** After any commands, let `cs` be the
text to be tokenized first, and let it start with a backtick, or with a closing brace
under a goal that lets it resume a template. A template piece that `cs` starts with is
the only one; it is the token, and its kind tells the opening and the end. If there is
none, the token is the error for a piece without end, and takes all of `cs`. -/
theorem pulls_template_pieces (name source : String) (options : Options)
    (commands : List Command) (goal : Goal) (short : source.utf8ByteSize < counterBound - 1) :
    ∃ replies lx, (create name source options).drive commands = .ok (replies, lx) ∧
      ∃ cs token after, lx.PullsAt options goal cs token after ∧
        ∀ opening : Opening, opening.Opens goal → cs.head? = some opening.char →
          (∀ stop text, opening.IsPiece stop text → text <+: cs →
            (∀ other more, opening.IsPiece other more → more <+: cs →
              other = stop ∧ more = text) ∧
            token.kind = opening.kind stop ∧ token.lexeme.toList = text ∧ token.error = none) ∧
          ((∀ stop text, opening.IsPiece stop text → ¬ text <+: cs) →
            token.kind = .error ∧ token.lexeme.toList = cs ∧
              token.error = some opening.unterminated) := by
  obtain ⟨replies, lx, run, cs, token, after, pull, carries⟩ :=
    exists_pull name options commands goal short
  refine ⟨replies, lx, run, cs, token, after, pull, ?_⟩
  intro opening opens first
  obtain ⟨sameKind, sameLexeme, sameError⟩ := carries
  refine ⟨?_, ?_⟩
  · intro stop text piece starts
    have scanned := Piece.scan_of_isPiece options opens piece starts
    refine ⟨?_, ?_⟩
    · intro other more otherPiece otherStarts
      have again := Piece.scan_of_isPiece options opens otherPiece otherStarts
      rw [scanned] at again
      injection again with sameText sameOutcome
      injection sameOutcome with sameKinds
      exact ⟨opening.kind_injective sameKinds.symm, sameText.symm⟩
    · rw [scanned] at sameKind sameLexeme sameError
      exact ⟨sameKind, sameLexeme, sameError⟩
  · intro none
    obtain ⟨rest, rfl⟩ := List.head?_eq_some_iff.1 first
    rw [Piece.scan_of_no_piece options opens none] at sameKind sameLexeme sameError
    exact ⟨sameKind, sameLexeme, sameError⟩

/-- Two dollar signs before a brace: the first is text, the second opens a substitution. -/
theorem pulls_template_pieces_dollars :
    "a`\\`$$\x7b".utf8ByteSize < counterBound - 1 ∧
      ∃ replies lx, (create "a.js" "a`\\`$$\x7b" {}).drive
          [.ask (.peek .regExp), .ask (.next .div)] = .ok (replies, lx) ∧
        ∃ token after, lx.next .div = .ok (token, after) ∧ token.kind = .templateHead ∧
          token.lexeme.toList = ['\x60', '\\', '\x60', '$', '$', '{'] := by
  obtain ⟨replies, lx, run, cs, token, after, pull, pieces⟩ := pulls_template_pieces "a.js"
    "a`\\`$$\x7b" {} [.ask (.peek .regExp), .ask (.next .div)] .div (by decide)
  obtain ⟨_, _, evaluated, unread⟩ : ∃ replies lx, (create "a.js" "a`\\`$$\x7b" {}).drive
      [.ask (.peek .regExp), .ask (.next .div)] = .ok (replies, lx) ∧
      lx.place.rest = ['\x60', '\\', '\x60', '$', '$', '{'] := ⟨_, _, rfl, rfl⟩
  rw [evaluated] at run
  cases run
  have text : cs = ['\x60', '\\', '\x60', '$', '$', '{'] := (pull.first.1 rfl).trans unread
  subst text
  have piece : Opening.backtick.IsPiece .substitution ['\x60', '\\', '\x60', '$', '$', '{'] :=
    ⟨⟨['\\', '\x60', '$'], rfl⟩, rfl⟩
  obtain ⟨-, kind, lexeme, -⟩ :=
    (pieces .backtick trivial rfl).1 .substitution _ piece List.prefix_rfl
  exact ⟨by decide, _, _, evaluated, token, after, pull.pulled, kind, lexeme⟩

end Lexer

end GoalLexer
