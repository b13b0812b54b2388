import GoalLexer.Proofs.Choice

/-!
# What a production takes

Every production takes a beginning of the unread text, and all of them but the
end of the input take at least one character: `Piece.scan_takes`. The number
productions carry the characters already read along, so their form of the
statement, `Piece.Extends`, speaks about what is read and what is left together.
-/

set_option autoImplicit false

namespace GoalLexer

namespace Piece

/-- The outcome of reading text: an error with its cause, or the kind of a
well-formed token. -/
@[simp] def Proper (outcome : Except LexError TokenKind) : Prop :=
  outcome ≠ .ok .endOfInput ∧ outcome ≠ .ok .error

/-- The piece is a beginning of the text, not empty, and has the outcome of reading
text. -/
structure Takes (cs : List Char) (piece : Piece) : Prop where
  isPrefix : piece.lexeme <+: cs
  nonempty : piece.lexeme ≠ []
  proper : Proper piece.outcome

/-- The piece goes on from the characters `read` into `rest`. -/
structure Extends (read rest : List Char) (piece : Piece) : Prop where
  keeps : read <+: piece.lexeme
  isPrefix : piece.lexeme <+: read ++ rest
  proper : Proper piece.outcome

theorem Extends.takes {read rest : List Char} {piece : Piece} (ext : Extends read rest piece)
    (started : read ≠ []) : Takes (read ++ rest) piece where
  isPrefix := ext.isPrefix
  nonempty := fun empty => started (List.prefix_nil.1 (empty ▸ ext.keeps))
  proper := ext.proper

/-- A piece that goes on from more characters goes on from fewer. -/
theorem Extends.of_append {read more left rest : List Char} {piece : Piece}
    (ext : Extends (read ++ more) left piece) (same : more ++ left = rest) :
    Extends read rest piece where
  keeps := (List.prefix_append read more).trans ext.keeps
  isPrefix := by rw [← same, ← List.append_assoc]; exact ext.isPrefix
  proper := ext.proper

theorem append_prefix_of_drop {first second cs : List Char} (head : first <+: cs)
    (tail : second <+: cs.drop first.length) : first ++ second <+: cs := by
  obtain ⟨left, rfl⟩ := head
  rw [List.drop_left] at tail
  exact (List.prefix_append_right_inj first).2 tail

theorem take_append_isPrefix {n : Nat} {second cs : List Char} (tail : second <+: cs.drop n) :
    cs.take n ++ second <+: cs := by
  have joined := (List.prefix_append_right_inj (cs.take n)).2 tail
  rwa [List.take_append_drop] at joined

theorem take_one_ne_nil {cs : List Char} (unread : cs ≠ []) : cs.take 1 ≠ [] := by
  cases cs with
  | nil => exact absurd rfl unread
  | cons c cs => simp

/-- A piece of the first character and a stretch right behind it. -/
theorem take_one_append_takes {cs second : List Char} (unread : cs ≠ [])
    (tail : second <+: cs.drop 1) {outcome : Except LexError TokenKind}
    (proper : Proper outcome) : Takes cs ⟨cs.take 1 ++ second, outcome⟩ where
  isPrefix := take_append_isPrefix tail
  nonempty := fun empty => take_one_ne_nil unread (List.append_eq_nil_iff.1 empty).1
  proper := proper

/-- A piece of all that is left. -/
theorem all_takes {cs : List Char} (unread : cs ≠ []) {outcome : Except LexError TokenKind}
    (proper : Proper outcome) : Takes cs ⟨cs, outcome⟩ :=
  ⟨List.prefix_rfl, unread, proper⟩

/-! ## Numbers -/

theorem oneIf_isPrefix (p : Char → Bool) (cs : List Char) : oneIf p cs <+: cs := by
  cases cs with
  | nil => exact List.prefix_rfl
  | cons c cs =>
      simp only [oneIf]
      split
      · exact ⟨cs, rfl⟩
      · exact List.nil_prefix

/-- Where one character is taken, the rest follows it. -/
theorem oneIf_append_drop {p : Char → Bool} {cs : List Char} (taken : oneIf p cs ≠ []) :
    oneIf p cs ++ cs.drop 1 = cs := by
  cases cs with
  | nil => exact absurd rfl taken
  | cons c cs =>
      simp only [oneIf] at taken ⊢
      split
      · rfl
      · rename_i fails
        rw [if_neg fails] at taken
        exact absurd rfl taken

theorem oneIf_append_drop_length (p : Char → Bool) (cs : List Char) :
    oneIf p cs ++ cs.drop (oneIf p cs).length = cs := by
  cases cs with
  | nil => rfl
  | cons c cs =>
      simp only [oneIf]
      split <;> rfl

theorem badNumber_extends (read rest : List Char) : Extends read rest (badNumber read rest) where
  keeps := List.prefix_append read _
  isPrefix := (List.prefix_append_right_inj read).2 (oneIf_isPrefix _ rest)
  proper := by simp [badNumber]

theorem finishNumber_extends (read rest : List Char) :
    Extends read rest (finishNumber read rest) := by
  unfold finishNumber
  split
  · exact badNumber_extends read rest
  · exact ⟨List.prefix_rfl, List.prefix_append read rest, by simp⟩

theorem radixDigits_extends (base : Nat) (read rest : List Char) :
    Extends read rest (radixDigits base read rest) := by
  simp only [radixDigits]
  split
  · exact badNumber_extends read rest
  · exact (finishNumber_extends _ _).of_append List.takeWhile_append_dropWhile

/-- The digits of an exponent are those of base ten. -/
theorem exponentDigits_eq (read rest : List Char) :
    exponentDigits read rest =
      radixDigits 10 (read ++ oneIf (fun c => c == '+' || c == '-') rest)
        (rest.drop (oneIf (fun c => c == '+' || c == '-') rest).length) := rfl

theorem exponentDigits_extends (read rest : List Char) :
    Extends read rest (exponentDigits read rest) := by
  rw [exponentDigits_eq]
  exact (radixDigits_extends _ _ _).of_append (oneIf_append_drop_length _ rest)

theorem exponent_extends (read rest : List Char) : Extends read rest (exponent read rest) := by
  simp only [exponent]
  split
  · exact finishNumber_extends read rest
  · rename_i letter
    rw [List.isEmpty_iff] at letter
    exact (exponentDigits_extends _ _).of_append (oneIf_append_drop letter)

/-- The digits behind a decimal point, and the exponent behind them. -/
def fractionDigits (read rest : List Char) : Piece :=
  exponent (read ++ rest.takeWhile isDecimalDigit) (rest.dropWhile isDecimalDigit)

/-- The rest of a decimal number after its whole part. -/
def fraction (read rest : List Char) : Piece :=
  let point := oneIf (· == '.') rest
  if point.isEmpty then exponent read rest else fractionDigits (read ++ point) (rest.drop 1)

theorem decimal_eq (read rest : List Char) :
    decimal read rest =
      fraction (read ++ rest.takeWhile isDecimalDigit) (rest.dropWhile isDecimalDigit) := rfl

theorem fractionDigits_extends (read rest : List Char) :
    Extends read rest (fractionDigits read rest) :=
  (exponent_extends _ _).of_append List.takeWhile_append_dropWhile

theorem fraction_extends (read rest : List Char) : Extends read rest (fraction read rest) := by
  simp only [fraction]
  split
  · exact exponent_extends read rest
  · rename_i point
    rw [List.isEmpty_iff] at point
    exact (fractionDigits_extends _ _).of_append (oneIf_append_drop point)

theorem decimal_extends (read rest : List Char) : Extends read rest (decimal read rest) := by
  rw [decimal_eq]
  exact (fraction_extends _ _).of_append List.takeWhile_append_dropWhile

theorem unsignedNumber_extends (sign rest : List Char) :
    Extends sign rest (unsignedNumber sign rest) := by
  unfold unsignedNumber
  split
  · rename_i letter rest
    split
    · exact (radixDigits_extends _ _ _).of_append rfl
    · exact decimal_extends sign _
  · exact decimal_extends sign rest

/-- A decimal number that starts with a digit or with a point before a digit is
not empty. -/
theorem decimal_takes {cs : List Char} (starts : startsUnsigned cs = true) :
    Takes cs (decimal [] cs) := by
  cases cs with
  | nil => cases starts
  | cons c cs =>
      have ext := decimal_extends [] (c :: cs)
      refine ⟨ext.isPrefix, ?_, ext.proper⟩
      simp only [startsUnsigned, Bool.or_eq_true, Bool.and_eq_true, beq_iff_eq] at starts
      rcases starts with digit | ⟨rfl, -⟩
      · rw [decimal_eq]
        exact ((fraction_extends _ _).takes (by simp [digit])).nonempty
      · -- the whole part is empty, and the point has been read before the fraction
        have stops : isDecimalDigit '.' = false := by decide
        have same : decimal [] ('.' :: cs) = fractionDigits ['.'] cs := by
          simp [decimal_eq, fraction, oneIf, stops]
        rw [same]
        exact ((fractionDigits_extends _ _).takes (by simp)).nonempty

theorem unsignedNumber_takes {cs : List Char} (starts : startsUnsigned cs = true) :
    Takes cs (unsignedNumber [] cs) := by
  unfold unsignedNumber
  split
  · rename_i letter rest
    split
    · exact (radixDigits_extends _ ['0', letter] rest).takes (by simp)
    · exact decimal_takes starts
  · exact decimal_takes starts

theorem number_takes {signed : Bool} {cs : List Char} (starts : startsNumber signed cs = true) :
    Takes cs (number cs) := by
  cases cs with
  | nil => cases starts
  | cons c cs =>
      simp only [startsNumber, Bool.or_eq_true, Bool.and_eq_true] at starts
      by_cases minus : c = '-'
      · subst minus
        exact (unsignedNumber_extends ['-'] cs).takes (by simp)
      · have plain : oneIf (· == '-') (c :: cs) = [] := by simp [oneIf, minus]
        rcases starts with unsigned | ⟨⟨-, isMinus⟩, -⟩
        · simp only [number, plain, List.length_nil, List.drop_zero]
          exact unsignedNumber_takes unsigned
        · exact absurd (beq_iff_eq.1 isMinus) minus

/-- A number is well-formed, or an error that quotes it. -/
def IsQuoted (piece : Piece) : Prop :=
  piece.outcome = .ok .numericLiteral ∨
    piece.outcome = .error (.badNumber (String.ofList piece.lexeme))

theorem finishNumber_isQuoted (read rest : List Char) : (finishNumber read rest).IsQuoted := by
  unfold finishNumber
  split
  · exact Or.inr rfl
  · exact Or.inl rfl

theorem radixDigits_isQuoted (base : Nat) (read rest : List Char) :
    (radixDigits base read rest).IsQuoted := by
  simp only [radixDigits]
  split
  · exact Or.inr rfl
  · exact finishNumber_isQuoted _ _

theorem exponent_isQuoted (read rest : List Char) : (exponent read rest).IsQuoted := by
  simp only [exponent]
  split
  · exact finishNumber_isQuoted _ _
  · rw [exponentDigits_eq]
    exact radixDigits_isQuoted _ _ _

theorem decimal_isQuoted (read rest : List Char) : (decimal read rest).IsQuoted := by
  simp only [decimal]
  split
  · exact exponent_isQuoted _ _
  · exact exponent_isQuoted _ _

theorem number_isQuoted (cs : List Char) : (number cs).IsQuoted := by
  simp only [number]
  unfold unsignedNumber
  split
  · split
    · exact radixDigits_isQuoted _ _ _
    · exact decimal_isQuoted _ _
  · exact decimal_isQuoted _ _

/-! ## Literals between delimiters and comments -/

theorem commentBody_isPrefix {cs body : List Char} (closed : commentBody cs = some body) :
    body <+: cs := by
  induction cs generalizing body with
  | nil => cases closed
  | cons c cs ih =>
      simp only [commentBody] at closed
      split at closed
      · rename_i ends
        cases closed
        simp only [Bool.and_eq_true, beq_iff_eq] at ends
        obtain ⟨rfl, slash⟩ := ends
        obtain ⟨cs, rfl⟩ := List.head?_eq_some_iff.1 slash
        exact ⟨cs, rfl⟩
      · obtain ⟨inner, found, rfl⟩ := Option.map_eq_some_iff.1 closed
        exact List.cons_prefix_cons.2 ⟨rfl, ih found⟩

theorem stringBody_isPrefix {quote : Char} {cs body : List Char}
    (closed : stringBody quote cs = some body) : body <+: cs := by
  induction cs generalizing body with
  | nil => cases closed
  | cons c cs ih =>
      simp only [stringBody] at closed
      split at closed
      · cases closed
        exact ⟨cs, rfl⟩
      · obtain ⟨inner, found, rfl⟩ := Option.map_eq_some_iff.1 closed
        exact List.cons_prefix_cons.2 ⟨rfl, ih found⟩

theorem templateBody_isPrefix {cs body : List Char} {stop : TemplateEnd}
    (closed : templateBody cs = some (body, stop)) : body <+: cs := by
  fun_induction templateBody cs generalizing body stop with
  | case1 => cases closed
  | case2 c cs tick =>
      cases closed
      exact ⟨cs, rfl⟩
  | case3 c cs _ opens =>
      cases closed
      simp only [Bool.and_eq_true, beq_iff_eq] at opens
      obtain ⟨rfl, brace⟩ := opens
      obtain ⟨cs, rfl⟩ := List.head?_eq_some_iff.1 brace
      exact ⟨cs, rfl⟩
  | case4 => cases closed
  | case5 c _ _ _ escaped cs ih =>
      obtain ⟨⟨inner, ending⟩, found, same⟩ := Option.map_eq_some_iff.1 closed
      cases same
      exact List.cons_prefix_cons.2 ⟨rfl, List.cons_prefix_cons.2 ⟨rfl, ih found⟩⟩
  | case6 c cs _ _ _ ih =>
      obtain ⟨⟨inner, ending⟩, found, same⟩ := Option.map_eq_some_iff.1 closed
      cases same
      exact List.cons_prefix_cons.2 ⟨rfl, ih found⟩

theorem regexBody_isPrefix (inBrackets : Bool) (cs : List Char) :
    (regexBody inBrackets cs).1 <+: cs := by
  fun_induction regexBody inBrackets cs with
  | case1 => exact List.prefix_rfl
  | case2 => exact List.nil_prefix
  | case3 _ c cs => exact ⟨cs, rfl⟩
  | case4 => exact List.prefix_rfl
  | case5 _ c _ _ _ escaped cs _ => exact ⟨escaped :: cs, rfl⟩
  | case6 _ c _ _ _ escaped cs _ body stop same ih =>
      rw [same] at ih
      exact List.cons_prefix_cons.2 ⟨rfl, List.cons_prefix_cons.2 ⟨rfl, ih⟩⟩
  | case7 _ c cs => exact ⟨cs, rfl⟩
  | case8 _ c cs _ _ _ _ body stop same ih =>
      rw [same] at ih
      exact List.cons_prefix_cons.2 ⟨rfl, ih⟩

/-! ## Every production -/

theorem takeWhile_takes {p : Char → Bool} {c : Char} {cs : List Char} (holds : p c = true)
    {outcome : Except LexError TokenKind} (proper : Proper outcome) :
    Takes (c :: cs) ⟨(c :: cs).takeWhile p, outcome⟩ where
  isPrefix := List.takeWhile_prefix p
  nonempty := by simp [holds]
  proper := proper

theorem multiLineComment_takes {cs : List Char} (unread : cs ≠ []) :
    Takes cs (multiLineComment cs) := by
  unfold multiLineComment
  split
  · rename_i body closed
    refine ⟨take_append_isPrefix (commentBody_isPrefix closed), ?_, by simp⟩
    simp [unread]
  · exact all_takes unread (by simp)

theorem stringLiteral_takes {cs : List Char} (unread : cs ≠ []) : Takes cs (stringLiteral cs) := by
  cases cs with
  | nil => exact absurd rfl unread
  | cons quote cs =>
      simp only [stringLiteral]
      split
      · rename_i body closed
        exact ⟨List.cons_prefix_cons.2 ⟨rfl, stringBody_isPrefix closed⟩, by simp, by simp⟩
      · exact all_takes unread (by simp)

theorem templatePiece_takes {closed opened : TokenKind} {error : LexError} {cs : List Char}
    (unread : cs ≠ []) (closedProper : Proper (.ok closed)) (openedProper : Proper (.ok opened)) :
    Takes cs (templatePiece closed opened error cs) := by
  unfold templatePiece
  split
  · rename_i body found
    exact take_one_append_takes unread (templateBody_isPrefix found) closedProper
  · rename_i body found
    exact take_one_append_takes unread (templateBody_isPrefix found) openedProper
  · exact all_takes unread (by simp)

theorem regex_takes {cs : List Char} (unread : cs ≠ []) : Takes cs (regex cs) := by
  have body := regexBody_isPrefix false (cs.drop 1)
  simp only [regex]
  split
  · have flags := List.takeWhile_prefix (l := cs.drop (cs.take 1 ++ (regexBody false
      (cs.drop 1)).1).length) isIdContinue
    refine ⟨append_prefix_of_drop (take_append_isPrefix body) flags, ?_, by simp⟩
    simp [unread]
  · exact take_one_append_takes unread body (by simp)
  · exact take_one_append_takes unread body (by simp)
  · exact take_one_append_takes unread body (by simp)

theorem punctuator_takes {cs : List Char} {text : String} (found : punctuator? cs = some text) :
    Takes cs (punctuator text) where
  isPrefix := by
    have starts := List.find?_some found
    exact List.isPrefixOf_iff_prefix.1 starts
  nonempty := (punctuators_closed text (List.mem_of_find?_eq_some found)).1
  proper := by simp [punctuator]

theorem word_takes (reserved : ReservedWords) {cs : List Char} (unread : cs ≠ []) :
    Takes cs (word reserved cs) := by
  apply take_one_append_takes unread (List.takeWhile_prefix isIdContinue)
  split <;> simp

theorem divPunctuator_takes {cs : List Char} (unread : cs ≠ []) : Takes cs (divPunctuator cs) :=
  take_one_append_takes unread (oneIf_isPrefix _ _) (by simp)

/-- A piece of the first character alone. -/
theorem take_one_takes {cs : List Char} (unread : cs ≠ []) {outcome : Except LexError TokenKind}
    (proper : Proper outcome) : Takes cs ⟨cs.take 1, outcome⟩ :=
  ⟨List.take_prefix 1 cs, take_one_ne_nil unread, proper⟩

/-- **No gap and no overlap.** The piece under any goal is a beginning of the
unread text, and not empty while there is text. -/
theorem scan_takes (options : Options) (goal : Goal) {cs : List Char} (unread : cs ≠ []) :
    Takes cs (scan options goal cs) := by
  have applies := Production.choose_applies options goal cs
  unfold scan
  generalize Production.choose options goal cs = production at applies ⊢
  cases applies with
  | endOfInput => exact absurd rfl unread
  | whiteSpace white => exact takeWhile_takes white (by simp)
  | lineTerminator terminator => exact take_one_takes unread (by simp)
  | singleLineComment => exact takeWhile_takes (by decide) (by simp)
  | multiLineComment => exact multiLineComment_takes unread
  | number starts => exact number_takes starts
  | punctuator noNumber found => exact punctuator_takes found
  | word starts => exact word_takes _ unread
  | template => exact templatePiece_takes unread (by simp) (by simp)
  | string either => exact stringLiteral_takes unread
  | templateContinuation resumes => exact templatePiece_takes unread (by simp) (by simp)
  | division divides notLine notBlock => exact divPunctuator_takes unread
  | rightBrace closes => exact take_one_takes unread (by simp)
  | regex opens notLine notBlock => exact regex_takes unread
  | unexpected starts => exact take_one_takes unread (by simp)

@[simp] theorem scan_nil (options : Options) (goal : Goal) :
    scan options goal [] = ⟨[], .ok .endOfInput⟩ := rfl

theorem scan_isPrefix (options : Options) (goal : Goal) (cs : List Char) :
    (scan options goal cs).lexeme <+: cs := by
  by_cases unread : cs = []
  · subst unread
    exact List.prefix_rfl
  · exact (scan_takes options goal unread).isPrefix

theorem take_scan_length (options : Options) (goal : Goal) (cs : List Char) :
    cs.take (scan options goal cs).lexeme.length = (scan options goal cs).lexeme :=
  (List.prefix_iff_eq_take.1 (scan_isPrefix options goal cs)).symm

/-- The end of the input is where no text is left. -/
theorem scan_endOfInput_iff (options : Options) (goal : Goal) (cs : List Char) :
    (scan options goal cs).outcome = .ok .endOfInput ↔ cs = [] := by
  constructor
  · intro ended
    apply Classical.byContradiction
    intro unread
    exact (scan_takes options goal unread).proper.1 ended
  · rintro rfl
    rfl

/-- A piece of kind `error` has a cause. -/
theorem scan_outcome_ne_error (options : Options) (goal : Goal) (cs : List Char) :
    (scan options goal cs).outcome ≠ .ok .error := by
  by_cases unread : cs = []
  · subst unread
    simp
  · exact (scan_takes options goal unread).proper.2

/-- No error starts with a line terminator. -/
theorem exists_cons_of_scan_error {options : Options} {goal : Goal} {cs : List Char}
    {error : LexError} (failed : (scan options goal cs).outcome = .error error) :
    ∃ c rest, cs = c :: rest ∧ isLineTerminator c = false := by
  cases cs with
  | nil => cases failed
  | cons c rest =>
      refine ⟨c, rest, rfl, ?_⟩
      rw [← Bool.not_eq_true]
      intro terminator
      rw [(Production.Applies.lineTerminator terminator).scan_eq] at failed
      cases failed

end Piece

end GoalLexer
