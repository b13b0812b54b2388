import GoalLexer.Proofs.Locality
import GoalLexer.Proofs.Trivia

/-!
# Scanning a lexeme again

The lexeme of a piece, with nothing or the end of a line behind it, is scanned to the
same piece again. What stood behind the lexeme decided where it ends, and it is gone;
but no class of characters that could lengthen a token has a line terminator in it
(`Inline`), so the end of a line stops every production where it stopped before.

A production `Repeats` when it does so; an error is scanned again with nothing behind
it, and one error changes its name: a regular expression that a line terminator cut off
has no end when the line terminator is gone (`Piece.repeated`). Every production repeats:
`Production.run_repeats`.
-/

set_option autoImplicit false

namespace GoalLexer

/-- Nothing, or text that starts with a line terminator. -/
def LineEnd (cs : List Char) : Prop := ∀ c, cs.head? = some c → isLineTerminator c = true

theorem lineEnd_nil : LineEnd [] := by
  intro c first
  cases first

/-- The error that the lexeme of an error gives with nothing behind it. -/
def LexError.repeated : LexError → LexError
  | regexLineTerminator => unterminatedRegex
  | error => error

namespace Piece

/-- The piece that the lexeme of a piece gives. -/
def repeated (piece : Piece) : Piece :=
  ⟨piece.lexeme, piece.outcome.mapError LexError.repeated⟩

/-- What may follow the lexeme of a piece: the end of a line, and nothing at all if the
piece is an error. -/
structure Followed (piece : Piece) (r : List Char) : Prop where
  ends : LineEnd r
  alone : ∀ error, piece.outcome = .error error → r = []

/-- What `f` makes of a text it makes of the lexeme again. -/
def Repeats (f : List Char → Piece) : Prop :=
  ∀ (c : Char) (cs r : List Char), (f (c :: cs)).Followed r →
    f ((f (c :: cs)).lexeme ++ r) = (f (c :: cs)).repeated

@[simp] theorem repeated_ok (lexeme : List Char) (kind : TokenKind) :
    (Piece.mk lexeme (.ok kind)).repeated = ⟨lexeme, .ok kind⟩ := rfl

@[simp] theorem repeated_error (lexeme : List Char) (error : LexError) :
    (Piece.mk lexeme (.error error)).repeated = ⟨lexeme, .error error.repeated⟩ := rfl

end Piece

/-! ## Classes that stop at a cut -/

section Cut

variable {p : Char → Bool} {cs taken r : List Char}

theorem LineEnd.any_head? (ends : LineEnd r) (inline : Inline p) : r.head?.any p = false := by
  cases r with
  | nil => rfl
  | cons c r => exact inline c (ends c rfl)

/-- A class that does not go on in a text does not go on in a beginning of it that the
end of a line cuts off. -/
theorem any_head?_cut (cut : taken <+: cs) (ends : LineEnd r) (inline : Inline p)
    (stops : cs.head?.any p = false) : (taken ++ r).head?.any p = false := by
  cases taken with
  | nil => exact ends.any_head? inline
  | cons c taken =>
      obtain ⟨more, rfl⟩ := cut
      exact stops

theorem takeWhile_eq_nil_iff_head? : cs.takeWhile p = [] ↔ cs.head?.any p = false := by
  cases cs with
  | nil => simp
  | cons c cs => simp [List.takeWhile_cons]

theorem any_head?_dropWhile (p : Char → Bool) (cs : List Char) :
    (cs.dropWhile p).head?.any p = false := by
  have stops := List.head?_dropWhile_not p cs
  cases first : (cs.dropWhile p).head? with
  | none => rfl
  | some c => simpa [first] using stops

/-- A run of a class is followed by what stops it. -/
theorem takeWhile_append_of_stops (p : Char → Bool) (cs : List Char)
    (stops : r.head?.any p = false) : (cs.takeWhile p ++ r).takeWhile p = cs.takeWhile p := by
  rw [List.takeWhile_append_of_pos (List.all_eq_true.1 List.all_takeWhile),
    takeWhile_eq_nil_iff_head?.2 stops, List.append_nil]

theorem dropWhile_append_of_stops (p : Char → Bool) (cs : List Char)
    (stops : r.head?.any p = false) : (cs.takeWhile p ++ r).dropWhile p = r := by
  rw [List.dropWhile_append_of_pos (List.all_eq_true.1 List.all_takeWhile)]
  cases r with
  | nil => rfl
  | cons c r => rw [List.dropWhile_cons_of_neg (by simpa using stops)]

end Cut

namespace Piece

theorem oneIf_eq_nil_iff {p : Char → Bool} {cs : List Char} :
    oneIf p cs = [] ↔ cs.head?.any p = false := by
  cases cs with
  | nil => simp [oneIf]
  | cons c cs => simp [oneIf]

/-! ## Numbers -/

/-- What `f` makes of a text, going on from characters already read, is what it makes of
the characters it takes, with the end of a line behind them. -/
def RepeatsAfter (read : List Char) (f : List Char → Piece) : Prop :=
  ∀ {cs taken r : List Char}, (f cs).lexeme = read ++ taken → LineEnd r → f (taken ++ r) = f cs

theorem Extends.cut {read rest taken : List Char} {piece : Piece} (ext : Extends read rest piece)
    (split : piece.lexeme = read ++ taken) : taken <+: rest := by
  have inside := ext.isPrefix
  rw [split] at inside
  exact (List.prefix_append_right_inj read).1 inside

theorem oneIf_append {p : Char → Bool} {r : List Char} (cs : List Char) (ends : LineEnd r)
    (inline : Inline p) : oneIf p (oneIf p cs ++ r) = oneIf p cs := by
  cases cs with
  | nil => exact oneIf_eq_nil_iff.2 (ends.any_head? inline)
  | cons c cs =>
      by_cases holds : p c = true
      · simp [oneIf, holds]
      · have none : oneIf p (c :: cs) = [] := by simp [oneIf, holds]
        rw [none]
        exact oneIf_eq_nil_iff.2 (ends.any_head? inline)

theorem badNumber_repeats (read : List Char) : RepeatsAfter read (badNumber read) := by
  intro cs taken r split ends
  have letter : oneIf isAlphabetic cs = taken := List.append_cancel_left split
  subst letter
  unfold badNumber
  rw [oneIf_append cs ends inline_isAlphabetic]

theorem finishNumber_repeats (read : List Char) : RepeatsAfter read (finishNumber read) := by
  intro cs taken r split ends
  have cut := (finishNumber_extends read cs).cut split
  cases letter : cs.head?.any isAlphabetic with
  | false =>
      have stops := any_head?_cut cut ends inline_isAlphabetic letter
      unfold finishNumber
      rw [letter, stops]
      rfl
  | true =>
      have bad : finishNumber read cs = badNumber read cs := by simp [finishNumber, letter]
      rw [bad] at split ⊢
      have again := badNumber_repeats read split ends
      -- the letter has been taken along, so it is found again
      have found : (taken ++ r).head?.any isAlphabetic = true := by
        rw [← Bool.not_eq_false, ← oneIf_eq_nil_iff]
        intro none
        have same : oneIf isAlphabetic cs = taken := List.append_cancel_left split
        rw [← same, oneIf_append cs ends inline_isAlphabetic, oneIf_eq_nil_iff, letter] at none
        cases none
      rw [finishNumber, found]
      exact again

section Then

variable {g : List Char → List Char → Piece} (ext : ∀ read rest, Extends read rest (g read rest))
  (again : ∀ read, RepeatsAfter read (g read)) {p : Char → Bool} (inline : Inline p)
  (read : List Char) {cs taken r : List Char} (ends : LineEnd r)

include ext again inline ends

/-- Reading a run of characters first keeps a production repeating: the run ends again
where it ended, and so does what goes on behind it. -/
theorem run_then_repeats
    (split : (g (read ++ cs.takeWhile p) (cs.dropWhile p)).lexeme = read ++ taken) :
    (taken ++ r).takeWhile p = cs.takeWhile p ∧
      g (read ++ cs.takeWhile p) ((taken ++ r).dropWhile p) =
        g (read ++ cs.takeWhile p) (cs.dropWhile p) := by
  obtain ⟨more, whole⟩ := (ext (read ++ cs.takeWhile p) (cs.dropWhile p)).keeps
  have cut := (ext _ _).cut whole.symm
  have same : taken = cs.takeWhile p ++ more := by
    rw [split, List.append_assoc] at whole
    exact (List.append_cancel_left whole).symm
  have stops := any_head?_cut cut ends inline (any_head?_dropWhile p cs)
  rw [same, List.append_assoc, takeWhile_append_of_stops p cs stops,
    dropWhile_append_of_stops p cs stops]
  exact ⟨rfl, again _ whole.symm ends⟩

/-- Reading one character first, if it is of a kind, keeps a production repeating. -/
theorem one_then_repeats
    (split : (g (read ++ oneIf p cs) (cs.drop (oneIf p cs).length)).lexeme = read ++ taken) :
    oneIf p (taken ++ r) = oneIf p cs ∧
      g (read ++ oneIf p cs) ((taken ++ r).drop (oneIf p cs).length) =
        g (read ++ oneIf p cs) (cs.drop (oneIf p cs).length) := by
  obtain ⟨more, whole⟩ := (ext (read ++ oneIf p cs) (cs.drop (oneIf p cs).length)).keeps
  have cut := (ext _ _).cut whole.symm
  have same : taken = oneIf p cs ++ more := by
    rw [split, List.append_assoc] at whole
    exact (List.append_cancel_left whole).symm
  have rest := again _ whole.symm ends
  rw [same, List.append_assoc, List.drop_left]
  refine ⟨?_, rest⟩
  by_cases none : oneIf p cs = []
  · rw [none, List.length_nil, List.drop_zero] at cut
    rw [none, List.nil_append]
    exact oneIf_eq_nil_iff.2 (any_head?_cut cut ends inline (oneIf_eq_nil_iff.1 none))
  · cases cs with
    | nil => exact absurd rfl none
    | cons c cs =>
        have holds : p c = true := by simpa [oneIf] using none
        simp [oneIf, holds]

end Then

theorem radixDigits_repeats (base : Nat) (read : List Char) :
    RepeatsAfter read (radixDigits base read) := by
  intro cs taken r split ends
  by_cases none : cs.takeWhile (isDigitInBase base) = []
  · have bad : radixDigits base read cs = badNumber read cs := by simp [radixDigits, none]
    rw [bad] at split ⊢
    have stops := any_head?_cut ((badNumber_extends read cs).cut split) ends
      (inline_isDigitInBase base) (takeWhile_eq_nil_iff_head?.1 none)
    rw [radixDigits, takeWhile_eq_nil_iff_head?.2 stops]
    exact badNumber_repeats read split ends
  · have good : ∀ {ds : List Char}, ds.takeWhile (isDigitInBase base) ≠ [] →
        radixDigits base read ds = finishNumber (read ++ ds.takeWhile (isDigitInBase base))
          (ds.dropWhile (isDigitInBase base)) := by
      intro ds some
      simp [radixDigits, some]
    rw [good none] at split ⊢
    obtain ⟨sameRun, sameRest⟩ := run_then_repeats finishNumber_extends finishNumber_repeats
      (inline_isDigitInBase base) read ends split
    rw [good (sameRun ▸ none), sameRun, sameRest]

theorem exponentDigits_repeats (read : List Char) : RepeatsAfter read (exponentDigits read) := by
  intro cs taken r split ends
  have inline : Inline fun c => c == '+' || c == '-' := inline_of_four (by decide)
  rw [exponentDigits_eq] at split
  obtain ⟨sameSign, sameRest⟩ := one_then_repeats (radixDigits_extends 10) (radixDigits_repeats 10)
    inline read ends split
  rw [exponentDigits_eq, exponentDigits_eq, sameSign, sameRest]

/-- A production that goes on in one way behind a character of a kind, and in another way
where there is none. -/
theorem if_one_repeats {p : Char → Bool} (inline : Inline p)
    {f g h : List Char → List Char → Piece} (read : List Char)
    (same : ∀ cs, f read cs =
      if (oneIf p cs).isEmpty then h read cs else g (read ++ oneIf p cs) (cs.drop 1))
    (extNone : ∀ read rest, Extends read rest (h read rest))
    (againNone : ∀ read, RepeatsAfter read (h read))
    (ext : ∀ read rest, Extends read rest (g read rest))
    (again : ∀ read, RepeatsAfter read (g read)) : RepeatsAfter read (f read) := by
  intro cs taken r split ends
  by_cases none : (oneIf p cs).isEmpty = true
  · rw [same cs, if_pos none] at split ⊢
    have stops := any_head?_cut ((extNone read cs).cut split) ends inline
      (oneIf_eq_nil_iff.1 (List.isEmpty_iff.1 none))
    rw [same, oneIf_eq_nil_iff.2 stops]
    exact againNone read split ends
  · rw [same cs, if_neg none, ← length_oneIf none] at split ⊢
    obtain ⟨sameOne, sameRest⟩ := one_then_repeats ext again inline read ends split
    rw [same, sameOne, if_neg none, ← length_oneIf none, sameRest]

theorem exponent_repeats (read : List Char) : RepeatsAfter read (exponent read) :=
  if_one_repeats (inline_of_four (by decide)) read (fun _ => rfl) finishNumber_extends
    finishNumber_repeats exponentDigits_extends exponentDigits_repeats

theorem fractionDigits_repeats (read : List Char) : RepeatsAfter read (fractionDigits read) := by
  intro cs taken r split ends
  obtain ⟨sameRun, sameRest⟩ := run_then_repeats exponent_extends exponent_repeats
    (inline_isDigitInBase 10) read ends split
  unfold fractionDigits
  exact sameRun ▸ sameRest

theorem fraction_repeats (read : List Char) : RepeatsAfter read (fraction read) :=
  if_one_repeats (inline_eq (by decide)) read (fun _ => rfl) exponent_extends exponent_repeats
    fractionDigits_extends fractionDigits_repeats

theorem decimal_repeats (read : List Char) : RepeatsAfter read (decimal read) := by
  intro cs taken r split ends
  rw [decimal_eq] at split
  obtain ⟨sameRun, sameRest⟩ := run_then_repeats fraction_extends fraction_repeats
    (inline_isDigitInBase 10) read ends split
  rw [decimal_eq, decimal_eq]
  exact sameRun ▸ sameRest

theorem announced_cut {cs taken r : List Char} (cut : taken <+: cs) (ends : LineEnd r)
    (absent : announced cs = none) : announced (taken ++ r) = none := by
  by_cases zero : (taken ++ r).head? = some '0'
  · cases taken with
    | nil => exact absurd (ends '0' zero) (by decide)
    | cons c taken =>
        obtain ⟨more, rfl⟩ := cut
        cases Option.some.inj zero
        cases taken with
        | nil =>
            -- the zero stands alone, and no line terminator announces a base
            cases r with
            | nil => rfl
            | cons d r =>
                have inline : Inline fun c => (radix? c).isSome := inline_of_four (by decide)
                have none := inline d (ends d rfl)
                change radix? d = Option.none
                simpa using none
        | cons letter taken => exact absent
  · exact announced_of_head?_ne zero

theorem unsignedNumber_repeats (sign : List Char) : RepeatsAfter sign (unsignedNumber sign) := by
  intro cs taken r split ends
  rw [unsignedNumber_eq] at split
  rw [unsignedNumber_eq, unsignedNumber_eq]
  cases found : announced cs with
  | none =>
      rw [found] at split
      rw [announced_cut ((decimal_extends sign cs).cut split) ends found]
      exact decimal_repeats sign split ends
  | some base =>
      rw [found] at split
      obtain ⟨more, whole⟩ := (radixDigits_extends base (sign ++ cs.take 2) (cs.drop 2)).keeps
      have same : taken = cs.take 2 ++ more := by
        rw [split, List.append_assoc] at whole
        exact (List.append_cancel_left whole).symm
      have again := radixDigits_repeats base _ whole.symm ends
      have two := length_take_of_announced found
      have agree : Agree 2 cs (taken ++ r) := by
        rw [same, List.append_assoc]
        exact (List.take_left' two).symm
      rw [announced_of_agree agree, found]
      dsimp only
      rw [← agree, same, List.append_assoc, List.drop_left' two]
      exact again

/-- **A number** is read again. -/
theorem number_append (cs : List Char) {r : List Char} (ends : LineEnd r) :
    number ((number cs).lexeme ++ r) = number cs := by
  have same : ∀ ds, number ds = unsignedNumber ([] ++ oneIf (· == '-') ds)
      (ds.drop (oneIf (· == '-') ds).length) := fun _ => rfl
  have inline : Inline (· == '-') := inline_eq (by decide)
  have split : (unsignedNumber ([] ++ oneIf (· == '-') cs)
      (cs.drop (oneIf (· == '-') cs).length)).lexeme = [] ++ (number cs).lexeme := rfl
  obtain ⟨sameSign, sameRest⟩ := one_then_repeats unsignedNumber_extends unsignedNumber_repeats
    inline [] ends split
  rw [same (_ ++ r), sameSign, sameRest]
  rfl

theorem IsQuoted.repeated {piece : Piece} (quoted : piece.IsQuoted) : piece.repeated = piece := by
  obtain ⟨lexeme, outcome⟩ := piece
  rcases quoted with good | bad
  · dsimp only at good
    subst good
    rfl
  · dsimp only at bad
    subst bad
    rfl

/-! ## Literals between delimiters and comments -/

theorem agree_append {body cs : List Char} (starts : body <+: cs) (r : List Char) :
    Agree body.length cs (body ++ r) := by
  obtain ⟨more, rfl⟩ := starts
  unfold Agree
  rw [List.take_left, List.take_left]

/-- An error that takes all the rest. -/
theorem repeats_of_all {f : List Char → Piece} {cs r : List Char} {error : LexError}
    (all : f cs = ⟨cs, .error error⟩) (keeps : error.repeated = error)
    (followed : (f cs).Followed r) : f ((f cs).lexeme ++ r) = (f cs).repeated := by
  rw [all] at followed
  rw [followed.alone error rfl, List.append_nil, all]
  dsimp only
  rw [all, repeated_error, keeps]

theorem multiLineComment_repeats : Repeats multiLineComment := by
  intro c cs r followed
  cases closed : commentBody ((c :: cs).drop 2) with
  | none =>
      have all : multiLineComment (c :: cs) = ⟨c :: cs, .error .unterminatedComment⟩ := by
        simp only [multiLineComment, closed]
      exact repeats_of_all all rfl followed
  | some body =>
      have two : ((c :: cs).take 2).length = 2 :=
        length_take_of_drop_ne_nil fun empty => by rw [empty] at closed; cases closed
      have same : multiLineComment (c :: cs) =
          ⟨(c :: cs).take 2 ++ body, .ok .multiLineComment⟩ := by
        simp only [multiLineComment, closed]
      have again := commentBody_of_agree closed (agree_append (commentBody_isPrefix closed) r)
      rw [same, repeated_ok]
      simp only [multiLineComment, List.append_assoc]
      rw [List.drop_left' two, again, List.take_left' two]

theorem stringLiteral_repeats : Repeats stringLiteral := by
  intro quote cs r followed
  cases closed : stringBody quote cs with
  | none =>
      have all : stringLiteral (quote :: cs) = ⟨quote :: cs, .error .unterminatedString⟩ := by
        simp only [stringLiteral, closed]
      exact repeats_of_all all rfl followed
  | some body =>
      have same : stringLiteral (quote :: cs) = ⟨quote :: body, .ok .stringLiteral⟩ := by
        simp only [stringLiteral, closed]
      have again := stringBody_of_agree closed (agree_append (stringBody_isPrefix closed) r)
      rw [same, repeated_ok]
      simp only [List.cons_append, stringLiteral, again]

theorem templatePiece_repeats (closed opened : TokenKind) {error : LexError}
    (keeps : error.repeated = error) : Repeats (templatePiece closed opened error) := by
  intro c cs r followed
  cases found : templateBody cs with
  | none => exact repeats_of_all (by simp [templatePiece, found]) keeps followed
  | some result =>
      obtain ⟨body, stop⟩ := result
      have again := templateBody_of_agree found (agree_append (templateBody_isPrefix found) r)
      cases stop with
      | backtick => simp [templatePiece, found, again]
      | substitution => simp [templatePiece, found, again]

/-- What closes a regular expression, or is forbidden in it, is found again, whatever
follows. -/
theorem regexBody_append {inBrackets : Bool} {cs body : List Char} {stop : RegexStop}
    (found : regexBody inBrackets cs = (body, stop))
    (stopped : stop = .closed ∨ ∃ c, stop = .forbidden c) (r : List Char) :
    regexBody inBrackets (body ++ r) = (body, stop) := by
  fun_induction regexBody inBrackets cs generalizing body with
  | case1 | case2 | case4 | case5 =>
      cases found
      simp at stopped
  | case3 inBrackets c cs ends closes =>
      cases found
      rw [List.singleton_append, regexBody.eq_def]
      simp only [if_neg ends, if_pos closes]
  | case6 inBrackets c ends closes escape escaped cs goes inner stop inside ih =>
      cases found
      rw [List.cons_append, List.cons_append, regexBody.eq_def]
      simp only [if_neg ends, if_neg closes, if_pos escape, if_neg goes, ih inside]
  | case7 inBrackets c cs ends closes escape forbidden =>
      cases found
      rw [List.singleton_append, regexBody.eq_def]
      simp only [if_neg ends, if_neg closes, if_neg escape, if_pos forbidden]
  | case8 inBrackets c cs ends closes escape allowed inner stop inside ih =>
      cases found
      rw [List.cons_append, regexBody.eq_def]
      simp only [if_neg ends, if_neg closes, if_neg escape, if_neg allowed, ih inside]

/-- What a line terminator cut off, or what has no end, has no end again. -/
theorem regexBody_cut {inBrackets : Bool} {cs body : List Char} {stop : RegexStop}
    (found : regexBody inBrackets cs = (body, stop))
    (stopped : stop = .lineTerminator ∨ stop = .endOfInput) :
    regexBody inBrackets body = (body, .endOfInput) := by
  fun_induction regexBody inBrackets cs generalizing body with
  | case1 | case2 =>
      cases found
      rfl
  | case3 | case7 =>
      cases found
      simp at stopped
  | case4 inBrackets c ends closes escape =>
      cases found
      rw [regexBody.eq_def]
      simp only [if_neg ends, if_neg closes, if_pos escape]
  | case5 inBrackets c ends closes escape escaped cs stops =>
      cases found
      rw [regexBody.eq_def]
      simp only [if_neg ends, if_neg closes, if_pos escape]
  | case6 inBrackets c ends closes escape escaped cs goes inner stop inside ih =>
      cases found
      rw [regexBody.eq_def]
      simp only [if_neg ends, if_neg closes, if_pos escape, if_neg goes, ih inside]
  | case8 inBrackets c cs ends closes escape allowed inner stop inside ih =>
      cases found
      rw [regexBody.eq_def]
      simp only [if_neg ends, if_neg closes, if_neg escape, if_neg allowed, ih inside]

theorem regex_repeats : Repeats regex := by
  intro c cs r followed
  obtain ⟨body, stop, found⟩ : ∃ body stop, regexBody false cs = (body, stop) := ⟨_, _, rfl⟩
  cases stop with
  | closed =>
      have again := fun more => regexBody_append found (Or.inl rfl) more
      have stops := followed.ends.any_head? inline_isIdContinue
      simp only [regex, List.drop_succ_cons, List.drop_zero, List.take_succ_cons, List.take_zero,
        found, List.cons_append, List.nil_append, List.append_assoc, again, List.length_cons,
        List.drop_left, takeWhile_append_of_stops isIdContinue _ stops, repeated_ok]
  | forbidden d =>
      have same : regex (c :: cs) = ⟨c :: body, .error (.invalidRegexChar d)⟩ := by
        simp [regex, found]
      rw [same] at followed
      have again := regexBody_append found (Or.inr ⟨d, rfl⟩) r
      rw [same]
      simp [regex, again, LexError.repeated]
  | lineTerminator =>
      have same : regex (c :: cs) = ⟨c :: body, .error .regexLineTerminator⟩ := by
        simp [regex, found]
      rw [same] at followed
      rw [same, followed.alone _ rfl]
      simp [regex, regexBody_cut found (Or.inl rfl), LexError.repeated]
  | endOfInput =>
      have same : regex (c :: cs) = ⟨c :: body, .error .unterminatedRegex⟩ := by
        simp [regex, found]
      rw [same] at followed
      rw [same, followed.alone _ rfl]
      simp [regex, regexBody_cut found (Or.inr rfl), LexError.repeated]

/-! ## Every production -/

theorem takeWhile_repeats {p : Char → Bool} (inline : Inline p) (kind : TokenKind) :
    Repeats fun cs => ⟨cs.takeWhile p, .ok kind⟩ := by
  intro c cs r followed
  dsimp only at followed ⊢
  rw [takeWhile_append_of_stops p _ (followed.ends.any_head? inline), repeated_ok]

theorem take_one_repeats {outcome : Except LexError TokenKind}
    (keeps : outcome.mapError LexError.repeated = outcome) :
    Repeats fun cs => ⟨cs.take 1, outcome⟩ := by
  intro c cs r followed
  simp [repeated, keeps]

theorem word_repeats (reserved : ReservedWords) : Repeats (word reserved) := by
  intro c cs r followed
  have stops := followed.ends.any_head? inline_isIdContinue
  simp [word, takeWhile_append_of_stops isIdContinue cs stops]

theorem divPunctuator_repeats : Repeats divPunctuator := by
  intro c cs r followed
  have inline : Inline (· == '=') := inline_eq (by decide)
  simp [divPunctuator, oneIf_append cs followed.ends inline]

theorem number_repeats : Repeats number := by
  intro c cs r followed
  rw [(number_isQuoted (c :: cs)).repeated]
  exact number_append (c :: cs) followed.ends

end Piece

/-- **Every production repeats.** -/
theorem Production.run_repeats (options : Options) (production : Production) :
    Piece.Repeats (production.run options) := by
  have inline : Inline (!isLineTerminator ·) := by
    intro c terminator
    simp [terminator]
  cases production with
  | endOfInput => exact fun _ _ _ _ => rfl
  | whiteSpace => exact Piece.takeWhile_repeats inline_isWhiteSpace _
  | lineTerminator => exact Piece.take_one_repeats rfl
  | singleLineComment => exact Piece.takeWhile_repeats inline _
  | multiLineComment => exact Piece.multiLineComment_repeats
  | number => exact Piece.number_repeats
  | punctuator text => exact fun _ _ _ _ => rfl
  | word => exact Piece.word_repeats _
  | template => exact Piece.templatePiece_repeats _ _ rfl
  | string => exact Piece.stringLiteral_repeats
  | templateContinuation => exact Piece.templatePiece_repeats _ _ rfl
  | division => exact Piece.divPunctuator_repeats
  | rightBrace => exact Piece.take_one_repeats rfl
  | regex => exact Piece.regex_repeats
  | unexpected => exact Piece.take_one_repeats rfl

end GoalLexer
