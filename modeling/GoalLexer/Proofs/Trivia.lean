import GoalLexer.Proofs.LineIndex
import GoalLexer.Proofs.Reader

/-!
# Trivia

What a lexer passes over when it is told not to capture trivia, said without the
lexer. `SkipsTo cs rest` holds where white space and complete comments lead from
the text `cs` to the text `rest`; `Bare cs` says that none stand first in `cs`.

`Production.run_kind_mem` lists the kinds of token that each production may give,
so that trivia come from three productions only. From there

* `Place.skipsTo_wanted` and `Place.bare_wanted`: the first wanted place is behind
  trivia, and no trivia follow;
* `Place.wanted_rest_eq`: no other text is.

The text at the wanted place is the `FirstText` of what is unread.
-/

set_option autoImplicit false

namespace GoalLexer

/-! ## The kinds of a production -/

namespace Piece

@[simp] theorem kind_ok (lexeme : List Char) (kind : TokenKind) :
    (Piece.mk lexeme (.ok kind)).kind = kind := rfl

@[simp] theorem kind_error (lexeme : List Char) (error : LexError) :
    (Piece.mk lexeme (.error error)).kind = .error := rfl

end Piece

theorem Token.not_isError_of_isTrivia {t : Token} (trivia : t.kind.isTrivia = true) :
    t.isError = false ∧ t.isEndOfInput = false := by
  unfold isError isEndOfInput
  cases kind : t.kind with
  | error | endOfInput =>
      rw [kind] at trivia
      cases trivia
  | _ => exact ⟨rfl, rfl⟩

namespace Production

/-- The kinds of token that a production may give. -/
def kinds : Production → List TokenKind
  | endOfInput => [.endOfInput]
  | whiteSpace => [.whiteSpace]
  | lineTerminator => [.lineTerminator]
  | singleLineComment => [.singleLineComment]
  | multiLineComment => [.multiLineComment, .error]
  | number => [.numericLiteral, .error]
  | punctuator _ => [.punctuator]
  | word => [.reservedWord, .identifierName]
  | template => [.noSubstitutionTemplate, .templateHead, .error]
  | string => [.stringLiteral, .error]
  | templateContinuation => [.templateTail, .templateMiddle, .error]
  | division => [.divPunctuator]
  | rightBrace => [.rightBracePunctuator]
  | regex => [.regularExpressionLiteral, .error]
  | unexpected => [.error]

theorem templatePiece_kind_mem (closed opened : TokenKind) (error : LexError) (cs : List Char) :
    (Piece.templatePiece closed opened error cs).kind ∈ [closed, opened, .error] := by
  unfold Piece.templatePiece
  split
  · simp
  · simp
  · simp

/-- **The kinds of a production** are all that it gives. -/
theorem run_kind_mem (options : Options) (production : Production) (cs : List Char) :
    (production.run options cs).kind ∈ production.kinds := by
  cases production with
  | multiLineComment =>
      simp only [run, Piece.multiLineComment]
      split <;> simp [kinds]
  | number =>
      rcases Piece.number_isQuoted cs with good | bad
      · simp [run, kinds, Piece.kind, good]
      · simp [run, kinds, Piece.kind, bad]
  | word =>
      simp only [run, kinds, Piece.word, Piece.kind_ok]
      split <;> simp
  | template => exact templatePiece_kind_mem _ _ _ cs
  | string =>
      cases cs with
      | nil => simp [run, kinds, Piece.stringLiteral]
      | cons quote cs =>
          simp only [run, Piece.stringLiteral]
          split <;> simp [kinds]
  | templateContinuation => exact templatePiece_kind_mem _ _ _ cs
  | regex =>
      simp only [run, Piece.regex]
      split <;> simp [kinds]
  | _ => exact List.mem_singleton_self _

/-- The productions of trivia. -/
def isTrivia : Production → Bool
  | whiteSpace | singleLineComment | multiLineComment => true
  | _ => false

theorem isTrivia_of_run {options : Options} {production : Production} {cs : List Char}
    (trivia : (production.run options cs).kind.isTrivia = true) : production.isTrivia = true := by
  have listed := run_kind_mem options production cs
  have none : ∀ other : Production, other.isTrivia = false →
      ∀ kind ∈ other.kinds, kind.isTrivia = false := by
    intro other plain
    cases other <;> simp_all [isTrivia, kinds, TokenKind.isTrivia]
  cases plain : production.isTrivia with
  | true => rfl
  | false =>
      rw [none production plain _ listed] at trivia
      cases trivia

/-- The texts at which a production of trivia is chosen. -/
theorem cases_of_choose_isTrivia {options : Options} {goal : Goal} {cs : List Char}
    (trivia : (choose options goal cs).isTrivia = true) :
    (∃ c rest, cs = c :: rest ∧ isWhiteSpace c = true) ∨ (∃ rest, cs = '/' :: '/' :: rest) ∨
      ∃ rest, cs = '/' :: '*' :: rest := by
  have applies := choose_applies options goal cs
  generalize choose options goal cs = production at applies trivia
  cases applies with
  | whiteSpace white => exact .inl ⟨_, _, rfl, white⟩
  | singleLineComment => exact .inr (.inl ⟨_, rfl⟩)
  | multiLineComment => exact .inr (.inr ⟨_, rfl⟩)
  | _ => cases trivia

end Production

/-! ## Skipping trivia -/

/-- Skipping trivia leads from one text to another. Trivia are white space, comments
up to the end of their line, and comments through their first closing. -/
inductive SkipsTo : List Char → List Char → Prop
  | done (cs : List Char) : SkipsTo cs cs
  | white {c : Char} {cs rest : List Char} (white : isWhiteSpace c = true)
      (skips : SkipsTo cs rest) : SkipsTo (c :: cs) rest
  | line {body cs rest : List Char} (plain : ∀ c ∈ body, isLineTerminator c = false)
      (ends : ∀ c, cs.head? = some c → isLineTerminator c = true) (skips : SkipsTo cs rest) :
      SkipsTo ('/' :: '/' :: (body ++ cs)) rest
  | block {body cs rest : List Char} (unclosed : ¬ ['*', '/'] <:+: body)
      (skips : SkipsTo cs rest) : SkipsTo ('/' :: '*' :: (body ++ '*' :: '/' :: cs)) rest

/-- No trivia stand first in the text. -/
def Bare (cs : List Char) : Prop := ∀ rest, SkipsTo cs rest → rest = cs

namespace SkipsTo

theorem trans {cs ds es : List Char} (first : SkipsTo cs ds) (second : SkipsTo ds es) :
    SkipsTo cs es := by
  induction first with
  | done => exact second
  | white white _ ih => exact .white white (ih second)
  | line plain ends _ ih => exact .line plain ends (ih second)
  | block unclosed _ ih => exact .block unclosed (ih second)

theorem length_le {cs rest : List Char} (skips : SkipsTo cs rest) : rest.length ≤ cs.length := by
  induction skips with
  | done => exact Nat.le_refl _
  | white _ _ ih => simp only [List.length_cons]; omega
  | line _ _ _ ih => simp only [List.length_cons, List.length_append]; omega
  | block _ _ ih => simp only [List.length_cons, List.length_append]; omega

theorem dropWhile (cs : List Char) : SkipsTo cs (cs.dropWhile isWhiteSpace) := by
  induction cs with
  | nil => exact .done []
  | cons c cs ih =>
      cases white : isWhiteSpace c with
      | true =>
          rw [List.dropWhile_cons_of_pos white]
          exact .white white ih
      | false =>
          rw [List.dropWhile_cons_of_neg (by simp [white])]
          exact .done _

end SkipsTo

theorem bare_nil : Bare [] := by
  intro rest skips
  exact List.length_eq_zero_iff.1 (Nat.le_zero.1 skips.length_le)

theorem Bare.not_white {c : Char} {cs : List Char} (bare : Bare (c :: cs)) :
    isWhiteSpace c = false := by
  cases white : isWhiteSpace c with
  | false => rfl
  | true =>
      have same := congrArg List.length (bare cs (.white white (.done cs)))
      simp at same

/-- White space that stands first is all skipped. -/
theorem SkipsTo.of_dropWhile {cs rest : List Char} (skips : SkipsTo cs rest) (bare : Bare rest) :
    SkipsTo (cs.dropWhile isWhiteSpace) rest := by
  have slash : isWhiteSpace '/' = false := by decide
  induction skips with
  | done cs =>
      cases cs with
      | nil => exact .done []
      | cons c cs =>
          rw [List.dropWhile_cons_of_neg (by simp [bare.not_white])]
          exact .done _
  | white white skips ih =>
      rw [List.dropWhile_cons_of_pos white]
      exact ih bare
  | line plain ends skips =>
      rw [List.dropWhile_cons_of_neg (by simp [slash])]
      exact .line plain ends skips
  | block unclosed skips =>
      rw [List.dropWhile_cons_of_neg (by simp [slash])]
      exact .block unclosed skips

theorem drop_length_takeWhile (p : Char → Bool) (cs : List Char) :
    cs.drop (cs.takeWhile p).length = cs.dropWhile p := by
  conv => lhs; rhs; rw [← List.takeWhile_append_dropWhile (p := p) (l := cs)]
  exact List.drop_left

/-! ## Trivia as pieces -/

namespace Piece

/-- A comment ends at its first closing. -/
theorem commentBody_append {body : List Char} (unclosed : ¬ ['*', '/'] <:+: body)
    (cs : List Char) :
    commentBody (body ++ '*' :: '/' :: cs) = some (body ++ ['*', '/']) := by
  induction body with
  | nil => simp [commentBody]
  | cons c body ih =>
      rw [List.infix_cons_iff, not_or] at unclosed
      have goesOn : ¬ (c == '*' && (body ++ '*' :: '/' :: cs).head? == some '/') = true := by
        simp only [Bool.and_eq_true, beq_iff_eq]
        rintro ⟨rfl, slash⟩
        cases body with
        | nil => simp at slash
        | cons d body =>
            simp only [List.cons_append, List.head?_cons, Option.some.injEq] at slash
            subst slash
            exact unclosed.1 ⟨body, rfl⟩
      rw [List.cons_append, commentBody, if_neg goesOn, ih unclosed.2]
      rfl

theorem exists_of_commentBody {cs through : List Char} (closed : commentBody cs = some through) :
    ∃ body rest, cs = body ++ '*' :: '/' :: rest ∧ through = body ++ ['*', '/'] ∧
      ¬ ['*', '/'] <:+: body := by
  induction cs generalizing through with
  | nil => cases closed
  | cons c cs ih =>
      simp only [commentBody] at closed
      split at closed
      · rename_i ends
        cases closed
        simp only [Bool.and_eq_true, beq_iff_eq] at ends
        obtain ⟨rfl, slash⟩ := ends
        obtain ⟨rest, rfl⟩ := List.head?_eq_some_iff.1 slash
        exact ⟨[], rest, rfl, rfl, by simp⟩
      · rename_i goesOn
        obtain ⟨inner, found, rfl⟩ := Option.map_eq_some_iff.1 closed
        obtain ⟨body, rest, rfl, rfl, unclosed⟩ := ih found
        refine ⟨c :: body, rest, rfl, rfl, ?_⟩
        rw [List.infix_cons_iff, not_or]
        refine ⟨?_, unclosed⟩
        rintro ⟨tail, same⟩
        obtain ⟨rfl, rfl⟩ := List.cons.inj same
        simp at goesOn

variable (options : Options) (goal : Goal)

theorem scan_of_white {c : Char} (cs : List Char) (white : isWhiteSpace c = true) :
    scan options goal (c :: cs) = ⟨c :: cs.takeWhile isWhiteSpace, .ok .whiteSpace⟩ := by
  rw [(Production.Applies.whiteSpace white).scan_eq]
  simp [Production.run, whiteSpace, white]

theorem scan_of_line {body cs : List Char} (plain : ∀ c ∈ body, isLineTerminator c = false)
    (ends : ∀ c, cs.head? = some c → isLineTerminator c = true) :
    scan options goal ('/' :: '/' :: (body ++ cs)) =
      ⟨'/' :: '/' :: body, .ok .singleLineComment⟩ := by
  have solid : isLineTerminator '/' = false := by decide
  have stops : cs.takeWhile (!isLineTerminator ·) = [] := by
    cases cs with
    | nil => rfl
    | cons c cs => simp [ends c rfl]
  have run : (body ++ cs).takeWhile (!isLineTerminator ·) = body := by
    rw [List.takeWhile_append_of_pos, stops, List.append_nil]
    intro c listed
    simp [plain c listed]
  rw [Production.Applies.singleLineComment.scan_eq]
  simp [Production.run, singleLineComment, solid, run]

theorem scan_of_block {body : List Char} (cs : List Char) (unclosed : ¬ ['*', '/'] <:+: body) :
    scan options goal ('/' :: '*' :: (body ++ '*' :: '/' :: cs)) =
      ⟨'/' :: '*' :: (body ++ ['*', '/']), .ok .multiLineComment⟩ := by
  rw [Production.Applies.multiLineComment.scan_eq]
  simp [Production.run, multiLineComment, commentBody_append unclosed]

/-- **Trivia that are scanned are skipped.** -/
theorem skipsTo_drop_scan {cs : List Char}
    (trivia : (scan options goal cs).kind.isTrivia = true) :
    SkipsTo cs (cs.drop (scan options goal cs).lexeme.length) := by
  rcases Production.cases_of_choose_isTrivia (Production.isTrivia_of_run trivia) with
    ⟨c, rest, rfl, white⟩ | ⟨rest, rfl⟩ | ⟨rest, rfl⟩
  · rw [scan_of_white options goal rest white, List.length_cons, List.drop_succ_cons,
      drop_length_takeWhile]
    exact .white white (.dropWhile rest)
  · obtain ⟨tail, split, ends⟩ := exists_firstLine_append rest
    have plain := plain_firstLine rest
    generalize firstLine rest = body at split plain
    subst split
    rw [scan_of_line options goal plain ends]
    simpa using SkipsTo.line plain ends (.done tail)
  · cases closed : commentBody rest with
    | none =>
        rw [Production.Applies.multiLineComment.scan_eq] at trivia
        simp [Production.run, multiLineComment, closed, TokenKind.isTrivia] at trivia
    | some through =>
        obtain ⟨body, tail, rfl, -, unclosed⟩ := exists_of_commentBody closed
        rw [scan_of_block options goal tail unclosed]
        simpa using SkipsTo.block unclosed (.done tail)

/-- Where trivia stand first, trivia are scanned. -/
theorem scan_isTrivia_of_skipsTo {cs rest : List Char} (skips : SkipsTo cs rest)
    (moved : rest ≠ cs) : (scan options goal cs).kind.isTrivia = true := by
  cases skips with
  | done => exact absurd rfl moved
  | white white => rw [scan_of_white options goal _ white]; rfl
  | line plain ends => rw [scan_of_line options goal plain ends]; rfl
  | block unclosed => rw [scan_of_block options goal _ unclosed]; rfl

/-- No trivia are scanned where none stand first. -/
theorem bare_iff {cs : List Char} : Bare cs ↔ (scan options goal cs).kind.isTrivia = false := by
  constructor
  · intro bare
    cases trivia : (scan options goal cs).kind.isTrivia with
    | false => rfl
    | true =>
        have unread : cs ≠ [] := by
          rintro rfl
          cases trivia
        have same := congrArg List.length (bare _ (skipsTo_drop_scan options goal trivia))
        have filled := List.length_pos_iff.2 (scan_takes options goal unread).nonempty
        have some := List.length_pos_iff.2 unread
        rw [List.length_drop] at same
        omega
  · intro kept rest skips
    apply Classical.byContradiction
    intro moved
    rw [scan_isTrivia_of_skipsTo options goal skips moved] at kept
    cases kept

/-- A scan of trivia does not pass the place to which they lead. -/
theorem skipsTo_of_drop_scan {cs rest : List Char} (skips : SkipsTo cs rest) (bare : Bare rest)
    (trivia : (scan options goal cs).kind.isTrivia = true) :
    SkipsTo (cs.drop (scan options goal cs).lexeme.length) rest := by
  cases skips with
  | done =>
      rw [(bare_iff options goal).1 bare] at trivia
      cases trivia
  | white white skips =>
      rw [scan_of_white options goal _ white, List.length_cons, List.drop_succ_cons,
        drop_length_takeWhile]
      exact skips.of_dropWhile bare
  | line plain ends skips =>
      rw [scan_of_line options goal plain ends]
      simpa using skips
  | block unclosed skips =>
      rw [scan_of_block options goal _ unclosed]
      simpa using skips

end Piece

/-! ## The first wanted place -/

namespace Place

variable (options : Options) (goal : Goal)

theorem isSkipped_eq_false_iff {p : Place} (skipping : options.captureTrivia = false) :
    p.isSkipped options goal = false ↔ Bare p.rest := by
  rw [Piece.bare_iff options goal, isSkipped, skipping, piece]
  simp

/-- Trivia lead to the wanted place. -/
theorem skipsTo_wanted (p : Place) : SkipsTo p.rest (p.wanted options goal).rest := by
  induction p using wanted_induction options goal with
  | kept p kept =>
      rw [wanted_of_not_isSkipped options goal kept]
      exact .done p.rest
  | skipped p skipped ih =>
      have trivia : (p.piece options goal).kind.isTrivia = true :=
        (Bool.and_eq_true_iff.1 skipped).1
      have first := Piece.skipsTo_drop_scan options goal trivia
      rw [wanted_of_isSkipped options goal skipped]
      apply first.trans
      rw [past, skip_rest] at ih
      exact ih

/-- A wanted place is not skipped itself. -/
theorem isSkipped_wanted (p : Place) :
    (p.wanted options goal).isSkipped options goal = false := by
  induction p using wanted_induction options goal with
  | kept p kept =>
      rw [wanted_of_not_isSkipped options goal kept]
      exact kept
  | skipped p skipped ih =>
      rw [wanted_of_isSkipped options goal skipped]
      exact ih

/-- No trivia follow the wanted place. -/
theorem bare_wanted (p : Place) (skipping : options.captureTrivia = false) :
    Bare (p.wanted options goal).rest :=
  (isSkipped_eq_false_iff options goal skipping).1 (p.isSkipped_wanted options goal)

/-- **The wanted place is the only one** to which trivia lead and from which none
follow. -/
theorem wanted_rest_eq {p : Place} {rest : List Char} (skipping : options.captureTrivia = false)
    (skips : SkipsTo p.rest rest) (bare : Bare rest) : (p.wanted options goal).rest = rest := by
  induction p using wanted_induction options goal with
  | kept p kept =>
      rw [wanted_of_not_isSkipped options goal kept]
      exact ((isSkipped_eq_false_iff options goal skipping).1 kept rest skips).symm
  | skipped p skipped ih =>
      have trivia : (p.piece options goal).kind.isTrivia = true :=
        (Bool.and_eq_true_iff.1 skipped).1
      rw [wanted_of_isSkipped options goal skipped]
      apply ih
      rw [past, skip_rest]
      exact Piece.skipsTo_of_drop_scan options goal skips bare trivia

end Place

/-! ## The first text -/

/-- The text to be tokenized first, where trivia before it are skipped unless they are
captured. -/
def FirstText (options : Options) (unread cs : List Char) : Prop :=
  (options.captureTrivia = true → cs = unread) ∧
    (options.captureTrivia = false → SkipsTo unread cs ∧ Bare cs)

/-- The first text is the text at the wanted place. -/
theorem Place.firstText_wanted (options : Options) (goal : Goal) (p : Place) :
    FirstText options p.rest (p.wanted options goal).rest := by
  refine ⟨?_, ?_⟩
  · intro captures
    rw [Place.wanted_of_not_isSkipped options goal (by simp [Place.isSkipped, captures])]
  · intro skipping
    exact ⟨p.skipsTo_wanted options goal, p.bare_wanted options goal skipping⟩

/-- Trivia lead to one first text. -/
theorem FirstText.unique {options : Options} {p : Place} {cs ds : List Char}
    (one : FirstText options p.rest cs) (other : FirstText options p.rest ds) : cs = ds := by
  cases captures : options.captureTrivia with
  | true => rw [one.1 captures, other.1 captures]
  | false =>
      obtain ⟨skips, bare⟩ := one.2 captures
      obtain ⟨skipsToo, bareToo⟩ := other.2 captures
      rw [← p.wanted_rest_eq options .div captures skips bare,
        ← p.wanted_rest_eq options .div captures skipsToo bareToo]

end GoalLexer
