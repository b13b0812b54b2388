import GoalLexer.Proofs.Progress
import GoalLexer.Proofs.Repetition

/-!
# Signed numbers only glue minus signs

A lexer may take a minus sign right before a number as part of it. One that does not
gives the same tokens, except that each number with a sign is two tokens, the sign and
the number: `Token.unglue`.

The two lexers part only where a minus sign stands before a number (`Glued`); elsewhere
they choose the same production (`Piece.scan_unsigned`). The productions of numbers
carry the sign along without looking at it (`Piece.unsignedNumber_prepends`), so the
number with its sign is the sign and the number, and behind them the lexers meet again:
`Reader.Parts.of_glued`. `Lexer.signs_are_glued` is the statement for `tokenize`.
-/

set_option autoImplicit false

namespace GoalLexer

/-- The same options, with no sign taken as part of a number. -/
def Options.unsigned (options : Options) : Options :=
  { options with signedNumericLiterals := false }

/-- A minus sign stands right before a number. -/
def Glued (cs : List Char) : Prop :=
  ∃ rest, cs = '-' :: rest ∧ Piece.startsUnsigned rest = true

/-- The position behind a minus sign. -/
def Position.afterMinus (p : Position) : Position :=
  { p with offset := p.offset + 1, column := p.column + 1 }

/-- The tokens in place of a token where no sign is part of a number: a number that
starts with a minus sign, well-formed or not, is the sign and what follows it. -/
def Token.unglue (t : Token) : List Token :=
  match t.lexeme.toList with
  | '-' :: digits =>
      let minus : Token := { kind := .punctuator, lexeme := "-", position := t.position }
      let number := String.ofList digits
      match t.kind, t.error with
      | .numericLiteral, _ =>
          [minus, { kind := .numericLiteral, lexeme := number, position := t.position.afterMinus }]
      | .error, some (.badNumber _) =>
          [minus, .ofError (.badNumber number) number t.position.afterMinus]
      | _, _ => [t]
  | _ => [t]

theorem Token.unglue_of_head?_ne {t : Token} (plain : t.lexeme.toList.head? ≠ some '-') :
    t.unglue = [t] := by
  unfold unglue
  split
  · rename_i digits text
    rw [text] at plain
    exact absurd rfl plain
  · rfl

theorem Token.unglue_of_punctuator {t : Token} (kind : t.kind = .punctuator) : t.unglue = [t] := by
  unfold unglue
  rw [kind]
  split <;> rfl

/-! ## Numbers with a sign in front -/

namespace Piece

/-- The piece with some text in front, and no other change. -/
structure Prepends (sign : List Char) (piece signed : Piece) : Prop where
  lexeme : signed.lexeme = sign ++ piece.lexeme
  kind : signed.kind = piece.kind

variable (sign read rest : List Char)

theorem badNumber_prepends :
    Prepends sign (badNumber read rest) (badNumber (sign ++ read) rest) :=
  ⟨List.append_assoc _ _ _, rfl⟩

theorem finishNumber_prepends :
    Prepends sign (finishNumber read rest) (finishNumber (sign ++ read) rest) := by
  unfold finishNumber
  split
  · exact badNumber_prepends sign read rest
  · exact ⟨rfl, rfl⟩

theorem radixDigits_prepends (base : Nat) :
    Prepends sign (radixDigits base read rest) (radixDigits base (sign ++ read) rest) := by
  simp only [radixDigits]
  split
  · exact badNumber_prepends sign read rest
  · rw [List.append_assoc]
    exact finishNumber_prepends sign _ _

theorem exponent_prepends :
    Prepends sign (exponent read rest) (exponent (sign ++ read) rest) := by
  simp only [exponent, exponentDigits_eq]
  split
  · exact finishNumber_prepends sign read rest
  · simp only [List.append_assoc]
    exact radixDigits_prepends sign _ _ 10

theorem decimal_prepends : Prepends sign (decimal read rest) (decimal (sign ++ read) rest) := by
  simp only [decimal]
  split
  · rw [List.append_assoc]
    exact exponent_prepends sign _ _
  · simp only [List.append_assoc]
    exact exponent_prepends sign _ _

theorem unsignedNumber_prepends :
    Prepends sign (unsignedNumber [] rest) (unsignedNumber sign rest) := by
  rw [unsignedNumber_eq, unsignedNumber_eq]
  split
  · exact radixDigits_prepends sign _ _ _
  · have same := decimal_prepends sign [] rest
    rwa [List.append_nil] at same

end Piece

/-! ## The choice of a production -/

theorem Piece.startsNumber_minus (signed : Bool) (rest : List Char) :
    startsNumber signed ('-' :: rest) = (signed && startsUnsigned rest) := by
  have fails : isDecimalDigit '-' = false := by decide
  simp [startsNumber, startsUnsigned, fails]

/-- Before a number a minus sign is a punctuator of its own. -/
theorem punctuator?_of_glued {rest : List Char} (starts : Piece.startsUnsigned rest = true) :
    punctuator? ('-' :: rest) = some "-" := by
  cases rest with
  | nil => cases starts
  | cons c rest =>
      have minus := (Piece.solid_of_startsUnsigned starts).2.2.2
      have equals : c ≠ '=' := by
        rintro rfl
        have fails : isDecimalDigit '=' = false := by decide
        simp [Piece.startsUnsigned, fails] at starts
      simp [punctuator?, punctuators, minus.symm, equals.symm]

namespace Production

variable (options : Options) (goal : Goal)

theorem run_unsigned (production : Production) (cs : List Char) :
    production.run options.unsigned cs = production.run options cs := by
  cases production <;> rfl

theorem startsNumber_of_not_glued {cs : List Char} (apart : ¬ Glued cs) (signed : Bool) :
    Piece.startsNumber signed cs = Piece.startsNumber false cs := by
  cases cs with
  | nil => rfl
  | cons c cs =>
      have sign : (c == '-' && Piece.startsUnsigned cs) = false := by
        rw [← Bool.not_eq_true, Bool.and_eq_true, beq_iff_eq]
        rintro ⟨rfl, starts⟩
        exact apart ⟨cs, rfl, starts⟩
      simp only [Piece.startsNumber, Bool.and_assoc, sign, Bool.and_false]

theorem choose_unsigned {cs : List Char} (apart : ¬ Glued cs) :
    choose options.unsigned goal cs = choose options goal cs := by
  have applies := choose_applies options goal cs
  generalize choose options goal cs = production at applies
  apply Applies.choose_eq
  cases applies with
  | number starts =>
      rw [startsNumber_of_not_glued apart] at starts
      exact .number starts
  | punctuator noNumber found =>
      rw [startsNumber_of_not_glued apart] at noNumber
      exact .punctuator noNumber found
  | _ =>
      -- no other production asks whether a number starts
      constructor <;> assumption

end Production

namespace Piece

variable {options : Options} {goal : Goal} {rest : List Char}

/-- **Elsewhere** the option does not matter. -/
theorem scan_unsigned {cs : List Char} (apart : ¬ Glued cs) :
    scan options.unsigned goal cs = scan options goal cs := by
  rw [scan, scan, Production.choose_unsigned options goal apart, Production.run_unsigned]

theorem scan_of_startsUnsigned (starts : startsUnsigned rest = true) :
    scan options goal rest = number rest := by
  rw [(Production.Applies.number (startsNumber_of_startsUnsigned starts)).scan_eq]
  rfl

theorem scan_of_glued (signed : options.signedNumericLiterals = true)
    (starts : startsUnsigned rest = true) :
    scan options goal ('-' :: rest) = number ('-' :: rest) := by
  have number : startsNumber options.signedNumericLiterals ('-' :: rest) = true := by
    rw [startsNumber_minus, signed, starts]
    rfl
  rw [(Production.Applies.number number).scan_eq]
  rfl

theorem scan_unsigned_of_glued (starts : startsUnsigned rest = true) :
    scan options.unsigned goal ('-' :: rest) = ⟨['-'], .ok .punctuator⟩ := by
  have noNumber : startsNumber options.unsigned.signedNumericLiterals ('-' :: rest) = false :=
    startsNumber_minus false rest
  rw [(Production.Applies.punctuator noNumber (punctuator?_of_glued starts)).scan_eq]
  rfl

/-- **A number behind a sign** is read as without it. -/
theorem number_prepends (starts : startsUnsigned rest = true) :
    Prepends ['-'] (number rest) (number ('-' :: rest)) := by
  have noSign : oneIf (· == '-') rest = [] := by
    cases rest with
    | nil => rfl
    | cons c rest => simp [oneIf, (Piece.solid_of_startsUnsigned starts).2.2.2]
  have same : number rest = unsignedNumber [] rest := by
    simp [number, noSign]
  rw [same]
  exact unsignedNumber_prepends ['-'] rest

theorem number_isTrivia (cs : List Char) : (number cs).kind.isTrivia = false := by
  rcases number_isQuoted cs with good | bad
  · rw [kind, good]
    rfl
  · rw [kind, bad]
    rfl

end Piece

/-! ## Places -/

namespace Place

variable {options : Options} {goal : Goal}

section Glued

variable (signed : options.signedNumericLiterals = true) {p : Place} {rest : List Char}
  (unread : p.rest = '-' :: rest) (starts : Piece.startsUnsigned rest = true)

include unread

theorem step_of_minus : p.step = ⟨rest, p.offset + 1, p.line, p.column + 1⟩ := by
  have goesOn : endsLine '-' rest = false := by
    have plain : isLineTerminator '-' = false := by decide
    simp [endsLine, plain]
  simp only [step, unread, goesOn]
  rfl

include starts

theorem past_of_minus : p.past options.unsigned goal = p.step := by
  rw [past, piece, unread, Piece.scan_unsigned_of_glued starts]
  rfl

include signed

/-- Behind the sign and the number is behind the number with its sign. -/
theorem past_of_glued : p.past options goal = p.step.past options.unsigned goal := by
  have behind : p.step.rest = rest := by rw [step_of_minus unread]
  rw [past, past, piece, piece, unread, behind, Piece.scan_of_glued signed starts,
    Piece.scan_of_startsUnsigned starts, (Piece.number_prepends starts).lexeme]
  rfl

/-- **The token of a number with its sign** is that of the sign and that of the number. -/
theorem unglue_of_glued (name : String) :
    (p.token options goal name).unglue =
      [p.token options.unsigned goal name, p.step.token options.unsigned goal name] := by
  have prepends := Piece.number_prepends starts
  have minus : p.token options.unsigned goal name =
      ⟨.punctuator, "-", ⟨name, p.offset, p.line, p.column⟩, none⟩ := by
    rw [token, piece, unread, Piece.scan_unsigned_of_glued starts]
    rfl
  have sameKind := prepends.kind
  rw [minus, step_of_minus unread]
  unfold token piece
  rw [unread, Piece.scan_of_glued signed starts, Piece.scan_of_startsUnsigned starts]
  -- a number is well-formed or quotes itself, with the sign as without it
  rcases Piece.number_isQuoted rest with good | bad
  · rcases Piece.number_isQuoted ('-' :: rest) with goodSign | badSign
    · simp [Token.unglue, Position.afterMinus, Piece.kind, Piece.error?, good, goodSign,
        prepends.lexeme]
    · rw [Piece.kind, Piece.kind, good, badSign] at sameKind
      cases sameKind
  · rcases Piece.number_isQuoted ('-' :: rest) with goodSign | badSign
    · rw [Piece.kind, Piece.kind, bad, goodSign] at sameKind
      cases sameKind
    · simp [Token.unglue, Token.ofError, Position.afterMinus, Piece.kind, Piece.error?, bad, badSign,
        prepends.lexeme]

end Glued

/-- A token that is no number with a sign stays as it is. -/
theorem unglue_of_not_glued {p : Place} (apart : ¬ Glued p.rest) (name : String) :
    (p.token options goal name).unglue = [p.token options goal name] := by
  by_cases minus : (p.token options goal name).lexeme.toList.head? = some '-'
  · obtain ⟨digits, text⟩ := List.head?_eq_some_iff.1 minus
    obtain ⟨more, whole⟩ := p.token_lexeme_isPrefix options goal name
    rw [text, List.cons_append] at whole
    have absent : Piece.startsUnsigned (digits ++ more) = false := by
      rw [← Bool.not_eq_true]
      exact fun starts => apart ⟨_, whole.symm, starts⟩
    obtain ⟨punctuator, found⟩ : ∃ text, punctuator? ('-' :: (digits ++ more)) = some text := by
      rw [← Option.isSome_iff_exists, punctuator?, List.find?_isSome]
      exact ⟨"-", by decide, by simp⟩
    have noNumber : Piece.startsNumber options.signedNumericLiterals ('-' :: (digits ++ more)) =
        false := by
      rw [Piece.startsNumber_minus, absent, Bool.and_false]
    have kind : (p.token options goal name).kind = .punctuator := by
      rw [token, piece, ← whole, (Production.Applies.punctuator noNumber found).scan_eq]
      rfl
    exact Token.unglue_of_punctuator kind
  · exact Token.unglue_of_head?_ne minus

theorem isSkipped_unsigned (signed : options.signedNumericLiterals = true) (p : Place) :
    p.isSkipped options.unsigned goal = p.isSkipped options goal := by
  unfold isSkipped piece
  by_cases glued : Glued p.rest
  · -- a sign and a number are no trivia, together or apart
    obtain ⟨rest, unread, starts⟩ := glued
    rw [unread, Piece.scan_unsigned_of_glued starts, Piece.scan_of_glued signed starts,
      Piece.number_isTrivia]
    rfl
  · rw [Piece.scan_unsigned glued]
    rfl

/-- The same trivia are passed over, as a number is never trivia. -/
theorem wanted_unsigned (signed : options.signedNumericLiterals = true) (p : Place) :
    p.wanted options.unsigned goal = p.wanted options goal := by
  apply wanted_eq_of_skips_alike options goal (isSkipped_unsigned signed)
  intro p skipped
  have apart : ¬ Glued p.rest := by
    rintro ⟨rest, unread, starts⟩
    rw [isSkipped, piece, unread, Piece.scan_of_glued signed starts, Piece.number_isTrivia]
      at skipped
    cases skipped
  rw [past, past, piece, piece, Piece.scan_unsigned apart]

end Place

/-! ## Readers -/

namespace Reader

theorem tokenizeAux_of_isEndOfInput {r : Reader} {goal : Goal}
    (ended : (r.token goal).isEndOfInput = true) (fuel : Nat) :
    r.tokenizeAux goal (fuel + 1) = ([], r.after goal) := by
  rw [tokenizeAux, if_pos ended]

theorem tokenizeAux_of_not_isEndOfInput {r : Reader} {goal : Goal}
    (goesOn : (r.token goal).isEndOfInput = false) (fuel : Nat) :
    r.tokenizeAux goal (fuel + 1) =
      (r.token goal :: ((r.after goal).tokenizeAux goal fuel).1,
        ((r.after goal).tokenizeAux goal fuel).2) := by
  rw [tokenizeAux, goesOn]
  rfl

/-- The reader `s` stands where `r` does, and takes no sign as part of a number. The
logs may differ, for a malformed number is reported with the text that it has. -/
structure Parts (r s : Reader) : Prop where
  signed : r.options.signedNumericLiterals = true
  options : s.options = r.options.unsigned
  name : s.name = r.name
  place : s.place = r.place

namespace Parts

variable {r s : Reader} (parts : Parts r s) {goal : Goal}

include parts

theorem next : s.next goal = r.next goal := by
  rw [Reader.next, Reader.next, parts.options, parts.place]
  exact Place.wanted_unsigned parts.signed r.place

theorem moves {t : Reader} (sameOptions : t.options = s.options) (sameName : t.name = s.name)
    (place : t.place = (r.after goal).place) : Parts (r.after goal) t :=
  ⟨parts.signed, sameOptions.trans parts.options, sameName.trans parts.name, place⟩

/-- **A pull elsewhere** gives both readers the same token. -/
theorem of_not_glued (apart : ¬ Glued (r.next goal).rest) :
    (r.token goal).unglue = [s.token goal] ∧ Parts (r.after goal) (s.after goal) := by
  have samePiece : (s.next goal).piece s.options goal = (r.next goal).piece r.options goal := by
    rw [parts.next, parts.options]
    exact Piece.scan_unsigned apart
  have sameToken : s.token goal = r.token goal := by
    unfold Reader.token Place.token
    rw [samePiece, parts.next, parts.name]
  constructor
  · rw [sameToken]
    exact Place.unglue_of_not_glued apart r.name
  · refine parts.moves rfl rfl ?_
    rw [after_place, after_place, Place.past, Place.past, samePiece, parts.next]

/-- **A pull of a number with its sign** is two pulls of the other reader. -/
theorem of_glued (glued : Glued (r.next goal).rest) :
    (r.token goal).unglue = [s.token goal, (s.after goal).token goal] ∧
      ((s.after goal).token goal).isEndOfInput = false ∧
      Parts (r.after goal) ((s.after goal).after goal) := by
  obtain ⟨rest, unread, starts⟩ := glued
  have behind : (s.after goal).place = (r.next goal).step := by
    rw [after_place, parts.next, parts.options]
    exact Place.past_of_minus unread starts
  -- no trivia stand between the sign and the number
  have here : (s.after goal).next goal = (r.next goal).step := by
    rw [Reader.next, behind]
    apply Place.wanted_of_not_isSkipped
    rw [Place.isSkipped, Place.piece, Place.step_of_minus unread,
      Piece.scan_of_startsUnsigned starts, Piece.number_isTrivia]
    rfl
  refine ⟨?_, ?_, ?_⟩
  · have number : (s.after goal).token goal =
        (r.next goal).step.token r.options.unsigned goal r.name := by
      rw [Reader.token, here, ← parts.name, ← parts.options]
      rfl
    have minus : s.token goal = (r.next goal).token r.options.unsigned goal r.name := by
      rw [Reader.token, parts.next, parts.name, parts.options]
    rw [number, minus]
    exact Place.unglue_of_glued parts.signed unread starts r.name
  · have digits : rest ≠ [] := by
      rintro rfl
      cases starts
    rw [← Bool.not_eq_true, Reader.token, Place.isEndOfInput_iff, here, Place.step_of_minus unread]
    exact digits
  · refine parts.moves rfl rfl ?_
    rw [after_place, here, after_place, Place.past_of_glued parts.signed unread starts,
      ← parts.options]
    rfl

/-- **All tokens** of the one reader are those of the other with the signs apart. -/
theorem tokenizeAux (goal : Goal) {fuel more : Nat} (enough : r.place.rest.length < fuel)
    (enoughMore : r.place.rest.length < more) :
    (s.tokenizeAux goal more).1 = (r.tokenizeAux goal fuel).1.flatMap Token.unglue ∧
      (s.tokenizeAux goal more).2.place = (r.tokenizeAux goal fuel).2.place := by
  -- each pull of the reader that glues uses fuel, and the other follows in one or two
  induction fuel generalizing r s more with
  | zero => cases enough
  | succ fuel ih =>
      have ends : ∀ q : Reader, (q.token goal).isEndOfInput = true ↔ (q.next goal).rest = [] :=
        fun q => (q.next goal).isEndOfInput_iff q.options goal q.name
      have sameEnd : (s.token goal).isEndOfInput = (r.token goal).isEndOfInput := by
        rw [Bool.eq_iff_iff, ends, ends, parts.next]
      obtain ⟨more, rfl⟩ : ∃ n, more = n + 1 := ⟨more - 1, by omega⟩
      by_cases glued : Glued (r.next goal).rest
      · obtain ⟨split, goesOnNext, partsNext⟩ := parts.of_glued glued
        have goesOn : (r.token goal).isEndOfInput = false := by
          obtain ⟨rest, unread, -⟩ := glued
          rw [← Bool.not_eq_true, ends, unread]
          exact List.cons_ne_nil _ _
        have shorter := after_rest_length_lt (sameEnd.trans goesOn)
        have shorterNext := after_rest_length_lt goesOnNext
        rw [partsNext.place] at shorterNext
        rw [parts.place] at shorter
        obtain ⟨more, rfl⟩ : ∃ n, more = n + 1 := ⟨more - 1, by omega⟩
        have fits : (r.after goal).place.rest.length < more := by omega
        obtain ⟨tokens, last⟩ := ih partsNext (by omega) fits
        rw [tokenizeAux_of_not_isEndOfInput goesOn,
          tokenizeAux_of_not_isEndOfInput (sameEnd.trans goesOn),
          tokenizeAux_of_not_isEndOfInput goesOnNext]
        refine ⟨?_, last⟩
        rw [List.flatMap_cons, split, tokens]
        rfl
      · obtain ⟨same, partsNext⟩ := parts.of_not_glued glued
        cases ended : (r.token goal).isEndOfInput with
        | true =>
            rw [tokenizeAux_of_isEndOfInput ended,
              tokenizeAux_of_isEndOfInput (sameEnd.trans ended)]
            exact ⟨rfl, partsNext.place⟩
        | false =>
            have shorter := after_rest_length_lt ended
            have fits : (r.after goal).place.rest.length < more := by omega
            obtain ⟨tokens, last⟩ := ih partsNext (by omega) fits
            rw [tokenizeAux_of_not_isEndOfInput ended,
              tokenizeAux_of_not_isEndOfInput (sameEnd.trans ended)]
            refine ⟨?_, last⟩
            rw [List.flatMap_cons, same, tokens]
            rfl

end Parts

end Reader

/-! ## Lexers -/

namespace Lexer

/-- **Signed numbers only glue minus signs.** A lexer that takes no sign as part of a
number tokenizes a source to the tokens of the lexer that does, with each number that
has a sign replaced by the sign and the number, and reaches the same place. -/
theorem signs_are_glued (name source : String) (options : Options) (goal : Goal)
    (short : source.utf8ByteSize < counterBound - 1) :
    ∃ glued apart lx other,
      (create name source { options with signedNumericLiterals := true }).tokenize goal =
        .ok (glued, lx) ∧
      (create name source { options with signedNumericLiterals := false }).tokenize goal =
        .ok (apart, other) ∧
      apart = glued.flatMap Token.unglue ∧ other.place = lx.place := by
  have start := create_coherent name { options with signedNumericLiterals := true } short
  have startOther := create_coherent name { options with signedNumericLiterals := false } short
  obtain ⟨lx, run, -, reached, -⟩ := start.tokenize goal
  obtain ⟨other, runOther, -, reachedOther, -⟩ := startOther.tokenize goal
  have parts : Reader.Parts
      (create name source { options with signedNumericLiterals := true }).reader
      (create name source { options with signedNumericLiterals := false }).reader :=
    ⟨rfl, rfl, rfl, rfl⟩
  obtain ⟨tokens, last⟩ := parts.tokenizeAux goal (Nat.lt_succ_self _) (Nat.lt_succ_self _)
  refine ⟨_, _, lx, other, run, runOther, tokens, ?_⟩
  rw [← reader_place, ← reader_place, reached, reachedOther]
  exact last

/-- A decrement, a signed number, a sign before a point, and a malformed signed number. -/
theorem signs_are_glued_decrement :
    "---.5-.\n-0xz".utf8ByteSize < counterBound - 1 ∧
      ∃ glued apart lx other,
        (create "a.js" "---.5-.\n-0xz" {}).tokenize .div = .ok (glued, lx) ∧
        (create "a.js" "---.5-.\n-0xz" { signedNumericLiterals := false }).tokenize .div =
          .ok (apart, other) ∧
        glued.map (·.lexeme) = ["--", "-.5", "-", ".", "\n", "-0xz"] ∧
        apart.map (·.lexeme) = ["--", "-", ".5", "-", ".", "\n", "-", "0xz"] ∧
        apart = glued.flatMap Token.unglue ∧ other.place = lx.place := by
  obtain ⟨glued, apart, lx, other, run, runOther, unglued⟩ :=
    signs_are_glued "a.js" "---.5-.\n-0xz" {} .div (by decide)
  obtain ⟨_, _, evaluated, lexemes⟩ :
      ∃ tokens lx, (create "a.js" "---.5-.\n-0xz" {}).tokenize .div = .ok (tokens, lx) ∧
        tokens.map (·.lexeme) = ["--", "-.5", "-", ".", "\n", "-0xz"] :=
    ⟨_, _, rfl, by decide⟩
  obtain ⟨_, _, evaluatedOther, lexemesOther⟩ :
      ∃ tokens lx, (create "a.js" "---.5-.\n-0xz"
          { signedNumericLiterals := false }).tokenize .div = .ok (tokens, lx) ∧
        tokens.map (·.lexeme) = ["--", "-", ".5", "-", ".", "\n", "-", "0xz"] :=
    ⟨_, _, rfl, by decide⟩
  rw [evaluated] at run
  rw [evaluatedOther] at runOther
  cases run
  cases runOther
  exact ⟨by decide, _, _, _, _, evaluated, evaluatedOther, lexemes, lexemesOther, unglued⟩

end Lexer

end GoalLexer
