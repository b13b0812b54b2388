import GoalLexer.Piece.Scan
import GoalLexer.Proofs.CharClasses

/-!
# The choice of a production

`Production.choose` goes through a row of tests. `Production.Applies` says of each
production by itself to which texts it applies, and the two agree
(`Production.choose_eq_iff`). So the order of the tests matters in two places only: a slash
that opens a comment neither divides nor opens a regular expression, and where a number
starts its first character is no punctuator. All other tests exclude each other, because
the classes of characters that they ask for are apart.

What is proved about the choice elsewhere is proved from `Applies`, case by case.
-/

set_option autoImplicit false

namespace GoalLexer

/-- A slash that opens no comment is read in one of two ways. -/
theorem Goal.allowsDiv_eq (goal : Goal) : goal.allowsDiv = !goal.allowsRegex := by
  cases goal <;> rfl

/-! ## Punctuators -/

/-- Punctuators are not empty, and each of their characters is a punctuator. -/
theorem punctuators_closed : ∀ text ∈ punctuators,
    text.toList ≠ [] ∧ ∀ c ∈ text.toList, String.singleton c ∈ punctuators := by
  -- `all` is evaluated along the text; a bounded quantifier may be along all characters
  have closed : ∀ text ∈ punctuators, text.toList ≠ [] ∧
      text.toList.all (fun c => decide (String.singleton c ∈ punctuators)) = true := by
    decide +kernel
  intro text listed
  obtain ⟨filled, all⟩ := closed text listed
  exact ⟨filled, fun c mem => of_decide_eq_true (List.all_eq_true.1 all c mem)⟩

/-- A text starts with no punctuator exactly where its first character starts none. -/
theorem punctuator?_eq_none_iff {c : Char} {cs : List Char} :
    punctuator? (c :: cs) = none ↔ ∀ p ∈ punctuators, p.toList.head? ≠ some c := by
  unfold punctuator?
  rw [List.find?_eq_none]
  constructor
  · intro none p listed first
    -- the first character of a punctuator is a punctuator, and would have been found
    have single := (punctuators_closed p listed).2 c (List.mem_of_head? first)
    refine none _ single ?_
    simp
  · intro absent p listed starts
    obtain ⟨d, text, same⟩ := List.exists_cons_of_ne_nil (punctuators_closed p listed).1
    rw [same, List.isPrefixOf_iff_prefix, List.cons_prefix_cons] at starts
    exact absent p listed (by rw [same, List.head?_cons, starts.1])

/-- The first character of a punctuator starts neither trivia nor a line end. -/
theorem solid_of_punctuator? {c : Char} {cs : List Char} {text : String}
    (found : punctuator? (c :: cs) = some text) :
    isWhiteSpace c = false ∧ isLineTerminator c = false ∧ c ≠ '/' := by
  have solid : ∀ text ∈ punctuators, text.toList.head?.all (fun c =>
      !isWhiteSpace c && !isLineTerminator c && c != '/') = true := by decide +kernel
  have listed := List.mem_of_find?_eq_some found
  obtain ⟨d, more, chars⟩ := List.exists_cons_of_ne_nil (punctuators_closed text listed).1
  have starts := List.find?_some found
  rw [chars, List.isPrefixOf_iff_prefix, List.cons_prefix_cons] at starts
  obtain ⟨rfl, -⟩ := starts
  have first := solid text listed
  simp only [chars, List.head?_cons, Option.all_some, Bool.and_eq_true, Bool.not_eq_true',
    bne_iff_ne, ne_eq] at first
  exact ⟨first.1.1, first.1.2, first.2⟩

/-! ## Numbers -/

namespace Piece

theorem startsUnsigned_of_isPrefix {first cs : List Char} (starts : first <+: cs)
    (number : startsUnsigned first = true) : startsUnsigned cs = true := by
  obtain ⟨more, rfl⟩ := starts
  cases first with
  | nil => cases number
  | cons c first =>
      cases first with
      | nil =>
          have digit : isDecimalDigit c = true := by simpa [startsUnsigned] using number
          simp [startsUnsigned, digit]
      | cons d first => exact number

/-- The first character of a number starts nothing else. -/
theorem solid_of_startsUnsigned {c : Char} {cs : List Char}
    (starts : startsUnsigned (c :: cs) = true) :
    isWhiteSpace c = false ∧ isLineTerminator c = false ∧ c ≠ '/' ∧ c ≠ '-' := by
  simp only [startsUnsigned, Bool.or_eq_true, Bool.and_eq_true, beq_iff_eq] at starts
  rcases starts with digit | ⟨rfl, -⟩
  · have plain : isLineTerminator c = false := eq_false_of_isDecimalDigit (by decide) digit
    refine ⟨eq_false_of_isDecimalDigit (by decide) digit, plain, ?_, ?_⟩
    · exact beq_eq_false_iff_ne.1 (eq_false_of_isDecimalDigit (p := (· == '/')) (by decide) digit)
    · exact beq_eq_false_iff_ne.1 (eq_false_of_isDecimalDigit (p := (· == '-')) (by decide) digit)
  · decide

theorem solid_of_startsNumber {signed : Bool} {c : Char} {cs : List Char}
    (starts : startsNumber signed (c :: cs) = true) :
    isWhiteSpace c = false ∧ isLineTerminator c = false ∧ c ≠ '/' := by
  simp only [startsNumber, Bool.or_eq_true, Bool.and_eq_true, beq_iff_eq] at starts
  rcases starts with unsigned | ⟨⟨-, rfl⟩, -⟩
  · obtain ⟨white, terminator, slash, -⟩ := solid_of_startsUnsigned unsigned
    exact ⟨white, terminator, slash⟩
  · decide

theorem startsNumber_of_startsUnsigned {signed : Bool} {cs : List Char}
    (starts : startsUnsigned cs = true) : startsNumber signed cs = true := by
  cases cs with
  | nil => cases starts
  | cons c cs => simp [startsNumber, starts]

end Piece

/-! ## First characters -/

/-- No trivia, name, number, literal or punctuator starts with the character, and it is
neither a slash nor a closing brace. -/
def StartsNoToken (c : Char) : Prop :=
  isWhiteSpace c = false ∧ isLineTerminator c = false ∧ isIdStart c = false ∧
    isDecimalDigit c = false ∧ c ∉ ['"', '\x27', Piece.backtick, '/', '}'] ∧
    ∀ p ∈ punctuators, p.toList.head? ≠ some c

instance (c : Char) : Decidable (StartsNoToken c) := inferInstanceAs (Decidable (_ ∧ _))

/-- The character starts neither trivia nor a number, and ends no line. -/
def IsSolid (c : Char) : Prop :=
  isWhiteSpace c = false ∧ isLineTerminator c = false ∧ isDecimalDigit c = false ∧
    c ∉ ['/', '.', '-']

instance (c : Char) : Decidable (IsSolid c) := inferInstanceAs (Decidable (_ ∧ _))

theorem isSolid_of_isIdStart {c : Char} (starts : isIdStart c = true) : IsSolid c := by
  refine ⟨spaceless_isIdStart.isWhiteSpace_eq_false starts,
    inline_isIdStart.isLineTerminator_eq_false starts, ?_, ?_⟩
  · rw [← Bool.not_eq_true]
    intro digit
    have other : isIdStart c = false := eq_false_of_isDecimalDigit (by decide) digit
    rw [other] at starts
    cases starts
  · intro listed
    have absent : ['/', '.', '-'].all (!isIdStart ·) = true := by decide
    have found := List.all_eq_true.1 absent c listed
    rw [starts] at found
    cases found

theorem StartsNoToken.isSolid {c : Char} (starts : StartsNoToken c) : IsSolid c := by
  obtain ⟨white, terminator, -, digit, other, absent⟩ := starts
  refine ⟨white, terminator, digit, ?_⟩
  simp only [List.mem_cons, List.not_mem_nil, or_false, not_or] at other ⊢
  refine ⟨other.2.2.2.1, ?_, ?_⟩
  · rintro rfl
    exact absent "." (by decide) rfl
  · rintro rfl
    exact absent "-" (by decide) rfl

theorem IsSolid.startsNumber {c : Char} (solid : IsSolid c) (signed : Bool) (cs : List Char) :
    Piece.startsNumber signed (c :: cs) = false := by
  obtain ⟨-, -, digit, other⟩ := solid
  simp only [List.mem_cons, List.not_mem_nil, or_false, not_or] at other
  simp [Piece.startsNumber, Piece.startsUnsigned, digit, other]

namespace Production

variable {options : Options} {goal : Goal}

/-! ## Where a production applies -/

/-- The texts to which each production applies. -/
inductive Applies (options : Options) (goal : Goal) : Production → List Char → Prop
  | endOfInput : Applies options goal .endOfInput []
  | whiteSpace {c : Char} {cs : List Char} (white : isWhiteSpace c = true) :
      Applies options goal .whiteSpace (c :: cs)
  | lineTerminator {c : Char} {cs : List Char} (terminator : isLineTerminator c = true) :
      Applies options goal .lineTerminator (c :: cs)
  | singleLineComment {cs : List Char} :
      Applies options goal .singleLineComment ('/' :: '/' :: cs)
  | multiLineComment {cs : List Char} :
      Applies options goal .multiLineComment ('/' :: '*' :: cs)
  | number {cs : List Char}
      (starts : Piece.startsNumber options.signedNumericLiterals cs = true) :
      Applies options goal .number cs
  | punctuator {cs : List Char} {text : String}
      (noNumber : Piece.startsNumber options.signedNumericLiterals cs = false)
      (found : punctuator? cs = some text) : Applies options goal (.punctuator text) cs
  | word {c : Char} {cs : List Char} (starts : isIdStart c = true) :
      Applies options goal .word (c :: cs)
  | template {cs : List Char} : Applies options goal .template (Piece.backtick :: cs)
  | string {quote : Char} {cs : List Char} (either : quote = '"' ∨ quote = '\x27') :
      Applies options goal .string (quote :: cs)
  | templateContinuation {cs : List Char} (resumes : goal.allowsTemplateTail = true) :
      Applies options goal .templateContinuation ('}' :: cs)
  | division {cs : List Char} (divides : goal.allowsDiv = true) (notLine : cs.head? ≠ some '/')
      (notBlock : cs.head? ≠ some '*') : Applies options goal .division ('/' :: cs)
  | rightBrace {cs : List Char} (closes : goal.allowsTemplateTail = false) :
      Applies options goal .rightBrace ('}' :: cs)
  | regex {cs : List Char} (opens : goal.allowsRegex = true) (notLine : cs.head? ≠ some '/')
      (notBlock : cs.head? ≠ some '*') : Applies options goal .regex ('/' :: cs)
  | unexpected {c : Char} {cs : List Char} (starts : StartsNoToken c) :
      Applies options goal .unexpected (c :: cs)

/-- Where no test before the last table holds, what this gives applies. -/
theorem chooseByChar_applies {c : Char} {cs : List Char} (white : isWhiteSpace c = false)
    (terminator : isLineTerminator c = false) (notLine : c = '/' → cs.head? ≠ some '/')
    (notBlock : c = '/' → cs.head? ≠ some '*')
    (noNumber : Piece.startsNumber options.signedNumericLiterals (c :: cs) = false)
    (none : punctuator? (c :: cs) = none) :
    Applies options goal (chooseByChar goal c) (c :: cs) := by
  unfold chooseByChar
  split
  · exact .word ‹_›
  split
  · rename_i tick
    rw [beq_iff_eq.1 tick]
    exact .template
  split
  · rename_i quotes
    exact .string (by simpa using quotes)
  split
  · rename_i tail
    simp only [Bool.and_eq_true, beq_iff_eq] at tail
    obtain ⟨rfl, resumes⟩ := tail
    exact .templateContinuation resumes
  split
  · rename_i slash
    simp only [Bool.and_eq_true, beq_iff_eq] at slash
    obtain ⟨rfl, divides⟩ := slash
    exact .division divides (notLine rfl) (notBlock rfl)
  rename_i name tick quotes tail noDivision
  split
  · rename_i brace
    rw [beq_iff_eq.1 brace] at tail ⊢
    exact .rightBrace (by simpa using tail)
  split
  · rename_i slash
    simp only [Bool.and_eq_true, beq_iff_eq] at slash
    obtain ⟨rfl, opens⟩ := slash
    exact .regex opens (notLine rfl) (notBlock rfl)
  rename_i brace noRegex
  -- under every goal a slash divides or opens a regular expression
  have slash : c ≠ '/' := by
    rintro rfl
    rw [Goal.allowsDiv_eq] at noDivision
    cases opens : goal.allowsRegex <;> simp [opens] at noDivision noRegex
  have digit : isDecimalDigit c = false := by
    simp only [Piece.startsNumber, Piece.startsUnsigned, Bool.or_eq_false_iff] at noNumber
    exact noNumber.1.1
  simp only [Bool.or_eq_true, beq_iff_eq, not_or] at tick quotes brace
  refine .unexpected ⟨white, terminator, by simpa using name, digit, ?_,
    punctuator?_eq_none_iff.1 none⟩
  simp [tick, quotes, slash, brace]

/-- **The production chosen applies.** -/
theorem choose_applies (options : Options) (goal : Goal) (cs : List Char) :
    Applies options goal (choose options goal cs) cs := by
  cases cs with
  | nil => exact .endOfInput
  | cons c cs =>
      simp only [choose]
      split
      · exact .whiteSpace ‹_›
      split
      · exact .lineTerminator ‹_›
      split
      · rename_i slashes
        simp only [Bool.and_eq_true, beq_iff_eq] at slashes
        obtain ⟨rfl, second⟩ := slashes
        obtain ⟨cs, rfl⟩ := List.head?_eq_some_iff.1 second
        exact .singleLineComment
      split
      · rename_i star
        simp only [Bool.and_eq_true, beq_iff_eq] at star
        obtain ⟨rfl, second⟩ := star
        obtain ⟨cs, rfl⟩ := List.head?_eq_some_iff.1 second
        exact .multiLineComment
      split
      · exact .number ‹_›
      rename_i white terminator line block noNumber
      rw [Bool.not_eq_true] at white terminator noNumber
      simp only [Bool.and_eq_true, beq_iff_eq, not_and] at line block
      split
      · exact .punctuator noNumber ‹_›
      · exact chooseByChar_applies white terminator line block noNumber ‹_›

section

variable (options goal)

/-- The choice where neither trivia nor a line terminator stands first. -/
theorem choose_of_solid {c : Char} {cs : List Char} (white : isWhiteSpace c = false)
    (terminator : isLineTerminator c = false) (line : (c == '/' && cs.head? == some '/') = false)
    (block : (c == '/' && cs.head? == some '*') = false) :
    choose options goal (c :: cs) =
      if Piece.startsNumber options.signedNumericLiterals (c :: cs) then .number
      else (punctuator? (c :: cs)).elim (chooseByChar goal c) .punctuator := by
  simp only [choose, white, terminator, line, block, Bool.false_eq_true, if_false]
  cases punctuator? (c :: cs) with
  | none => rfl
  | some text => rfl

/-- A character that starts no punctuator either decides the choice. -/
theorem choose_of_isSolid {c : Char} (solid : IsSolid c)
    (absent : ∀ p ∈ punctuators, p.toList.head? ≠ some c) (cs : List Char) :
    choose options goal (c :: cs) = chooseByChar goal c := by
  have slash : c ≠ '/' := by
    rintro rfl
    exact solid.2.2.2 List.mem_cons_self
  rw [choose_of_solid options goal solid.1 solid.2.1 (by simp [slash]) (by simp [slash]),
    solid.startsNumber, punctuator?_eq_none_iff.2 absent]
  rfl

/-- A slash that opens no comment divides or opens a regular expression. -/
theorem choose_of_slash {cs : List Char} (notLine : cs.head? ≠ some '/')
    (notBlock : cs.head? ≠ some '*') :
    choose options goal ('/' :: cs) = if goal.allowsRegex then .regex else .division := by
  have noNumber : Piece.startsNumber options.signedNumericLiterals ('/' :: cs) = false := by
    have digit : isDecimalDigit '/' = false := by decide
    simp [Piece.startsNumber, Piece.startsUnsigned, digit]
  rw [choose_of_solid options goal (by decide) (by decide) (by simp [notLine]) (by simp [notBlock]),
    noNumber, punctuator?_eq_none_iff.2 (by decide)]
  cases goal <;> decide

/-- A closing brace resumes a template or is a punctuator. -/
theorem choose_of_brace (cs : List Char) :
    choose options goal ('}' :: cs) =
      if goal.allowsTemplateTail then .templateContinuation else .rightBrace := by
  rw [choose_of_isSolid options goal (by decide) (by decide)]
  cases goal <;> decide

end

/-- **What applies is chosen.** -/
theorem Applies.choose_eq {production : Production} {cs : List Char}
    (applies : Applies options goal production cs) : choose options goal cs = production := by
  cases applies with
  | endOfInput => rfl
  | whiteSpace white => simp [choose, white]
  | lineTerminator terminator =>
      simp [choose, terminator, inline_isWhiteSpace _ terminator]
  | singleLineComment =>
      have solid : isWhiteSpace '/' = false ∧ isLineTerminator '/' = false := by decide
      simp [choose, solid]
  | multiLineComment =>
      have solid : isWhiteSpace '/' = false ∧ isLineTerminator '/' = false := by decide
      simp [choose, solid]
  | number starts =>
      cases cs with
      | nil => cases starts
      | cons c cs =>
          obtain ⟨white, terminator, slash⟩ := Piece.solid_of_startsNumber starts
          rw [choose_of_solid options goal white terminator (by simp [slash]) (by simp [slash]),
            starts]
          rfl
  | punctuator noNumber found =>
      cases cs with
      | nil => cases found
      | cons c cs =>
          obtain ⟨white, terminator, slash⟩ := solid_of_punctuator? found
          rw [choose_of_solid options goal white terminator (by simp [slash]) (by simp [slash]),
            noNumber, found]
          rfl
  | word starts =>
      have absent : ∀ p ∈ punctuators, p.toList.head?.all (!isIdStart ·) = true := by decide
      rw [choose_of_isSolid options goal (isSolid_of_isIdStart starts)]
      · simp [chooseByChar, starts]
      · intro p listed first
        have found := absent p listed
        simp [first, starts] at found
  | template =>
      rw [choose_of_isSolid options goal (by decide) (by decide)]
      rfl
  | string either =>
      rcases either with rfl | rfl
      · rw [choose_of_isSolid options goal (by decide) (by decide)]
        rfl
      · rw [choose_of_isSolid options goal (by decide) (by decide)]
        rfl
  | templateContinuation resumes => rw [choose_of_brace, if_pos resumes]
  | division divides notLine notBlock =>
      have noRegex : ¬ goal.allowsRegex = true := by simpa [Goal.allowsDiv_eq] using divides
      rw [choose_of_slash options goal notLine notBlock, if_neg noRegex]
  | rightBrace closes => rw [choose_of_brace, if_neg (by simp [closes])]
  | regex opens notLine notBlock =>
      rw [choose_of_slash options goal notLine notBlock, if_pos opens]
  | unexpected starts =>
      rw [choose_of_isSolid options goal starts.isSolid starts.2.2.2.2.2]
      obtain ⟨-, -, name, -, other, -⟩ := starts
      simp only [List.mem_cons, List.not_mem_nil, or_false, not_or] at other
      simp [chooseByChar, name, other]

/-- **A production is chosen exactly where it applies.** -/
theorem choose_eq_iff {production : Production} {cs : List Char} :
    choose options goal cs = production ↔ Applies options goal production cs := by
  constructor
  · rintro rfl
    exact choose_applies options goal cs
  · exact Applies.choose_eq

/-- The piece of the production that applies is the next one. -/
theorem Applies.scan_eq {production : Production} {cs : List Char}
    (applies : Applies options goal production cs) :
    Piece.scan options goal cs = production.run options cs := by
  rw [Piece.scan, applies.choose_eq]

end Production

end GoalLexer
