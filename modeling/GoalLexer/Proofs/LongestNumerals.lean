import GoalLexer.Proofs.NumberGrammar
import GoalLexer.Proofs.Pulled

/-!
# Numbers are the longest numerals

A number starts where a numeral stands first (`Numeral.startsNumber_iff`), and what is read
there is the longest one, with what spoils it if a letter follows: `Numeral.ending`.

The productions of numbers read one part of a numeral after another. Each is shown to end
in the longest word of its part of the grammar (`Numeral.Ends`), from the exponent over the
decimal numerals and those with a base to the sign. A part that turns out to be missing,
such as the digits of an exponent, spoils the numeral before it.
`Lexer.pulls_longest_numerals` is the statement for lexers.
-/

set_option autoImplicit false

namespace GoalLexer

/-! ## The productions, part by part -/

namespace Piece

open Numeral (isMark isSign afterSign)

section Digits

variable (base : Nat) {read rest : List Char}

theorem radixDigits_of_nil (none : rest.takeWhile (isDigitInBase base) = []) :
    radixDigits base read rest = badNumber read rest := by
  simp [radixDigits, none]

theorem radixDigits_of_ne_nil (some : rest.takeWhile (isDigitInBase base) ≠ []) :
    radixDigits base read rest =
      finishNumber (read ++ rest.takeWhile (isDigitInBase base))
        (rest.dropWhile (isDigitInBase base)) := by
  simp [radixDigits, some]

end Digits

theorem exponent_of_not_isMark {rest : List Char} (stops : rest.head?.any isMark = false)
    (read : List Char) : exponent read rest = finishNumber read rest := by
  change (if (oneIf isMark rest).isEmpty then _ else _) = _
  rw [oneIf_eq_nil_iff.2 stops]
  rfl

theorem exponent_of_isMark {letter : Char} (mark : isMark letter = true)
    (read more : List Char) :
    exponent read (letter :: more) =
      radixDigits 10 (read ++ letter :: oneIf isSign more) (afterSign more) := by
  have taken : oneIf isMark (letter :: more) = [letter] := by simp [oneIf, mark]
  change (if (oneIf isMark (letter :: more)).isEmpty then _ else
    exponentDigits (read ++ oneIf isMark (letter :: more)) more) = _
  rw [taken, exponentDigits_eq, List.append_assoc]
  rfl

theorem fraction_of_point (read more : List Char) :
    fraction read ('.' :: more) =
      exponent (read ++ '.' :: more.takeWhile isDecimalDigit)
        (more.dropWhile isDecimalDigit) := by
  change exponent (read ++ ['.'] ++ more.takeWhile isDecimalDigit) _ = _
  rw [List.append_assoc]
  rfl

theorem fraction_of_not_point {rest : List Char} (stops : rest.head?.any (· == '.') = false)
    (read : List Char) : fraction read rest = exponent read rest := by
  unfold fraction
  rw [oneIf_eq_nil_iff.2 stops]
  rfl

theorem exists_of_announced {cs : List Char} {base : Nat} (found : announced cs = some base) :
    ∃ letter rest, cs = '0' :: letter :: rest ∧ radix? letter = some base := by
  unfold announced at found
  split at found
  · exact ⟨_, _, rfl, found⟩
  · cases found

end Piece

namespace Numeral

/-! ## Malformed numbers -/

/-- A zero, with a sign or without. -/
def zero : RegularExpression Char := sign true * .char '0'

/-- A decimal numeral without exponent. -/
def plain : RegularExpression Char := sign true * mantissa

/-- What a malformed number takes along behind the longest numeral `w` in it: the letter
that follows, and behind a letter that promises a base or an exponent one letter more. -/
def spoiled (w : List Char) : List Char → List Char
  | [] => []
  | letter :: more =>
      if w ∈ zero.matches' ∧ isBaseLetter letter = true then
        letter :: Piece.oneIf isAlphabetic more
      else if w ∈ plain.matches' ∧ isMark letter = true then
        letter :: (Piece.oneIf isSign more ++ Piece.oneIf isAlphabetic (afterSign more))
      else [letter]

/-- The piece of a text that starts with the longest numeral `w` and goes on with `left`. -/
def ending (w left : List Char) : Piece :=
  if left.head?.any isAlphabetic then
    ⟨w ++ spoiled w left, .error (.badNumber (String.ofList (w ++ spoiled w left)))⟩
  else ⟨w, .ok .numericLiteral⟩

/-- Behind what has been read, the piece ends in the longest word of a language, or is
spoiled there. -/
def Ends (l : Language Char) (read cs : List Char) (piece : Piece) : Prop :=
  ∃ w left, w ++ left = cs ∧ Longest l cs w ∧ piece = ending (read ++ w) left

theorem mem_plain_of_mem_zero {w : List Char} (listed : w ∈ zero.matches') :
    w ∈ plain.matches' := by
  obtain ⟨s, signs, _, rfl, rfl⟩ := listed
  have digit : ['0'] ∈ mantissa.matches' := by decide +kernel
  exact ⟨s, signs, _, digit, rfl⟩

/-- A number ends in front of a letter that is neither of a base nor of an exponent. -/
theorem finishNumber_eq {w left : List Char}
    (noBase : w ∈ zero.matches' → left.head?.any isBaseLetter = false)
    (noMark : w ∈ plain.matches' → left.head?.any isMark = false) :
    Piece.finishNumber w left = ending w left := by
  cases left with
  | nil => rfl
  | cons letter more =>
      have single : spoiled w (letter :: more) = [letter] := by
        have base : ¬ (w ∈ zero.matches' ∧ isBaseLetter letter = true) := by
          rintro ⟨listed, holds⟩
          have stops := noBase listed
          simp [holds] at stops
        have mark : ¬ (w ∈ plain.matches' ∧ isMark letter = true) := by
          rintro ⟨listed, holds⟩
          have stops := noMark listed
          simp [holds] at stops
        rw [spoiled, if_neg base, if_neg mark]
      -- one letter is what both take along
      unfold Piece.finishNumber ending
      rw [single]
      split
      · rename_i alphabetic
        have holds : isAlphabetic letter = true := by simpa using alphabetic
        simp [Piece.badNumber, Piece.oneIf, holds]
      · rfl

/-- A numeral with a character that no decimal numeral without exponent has in it is
spoiled by one letter only. -/
theorem finishNumber_of_foreign {w : List Char} {c : Char} (inside : c ∈ w)
    (foreign : c ∉ Grammar.alphabet plain) (left : List Char) :
    Piece.finishNumber w left = ending w left := by
  have other : w ∉ plain.matches' := fun listed => foreign (Grammar.mem_alphabet listed inside)
  refine finishNumber_eq ?_ (fun listed => absurd listed other)
  exact fun listed => absurd (mem_plain_of_mem_zero listed) other

theorem ending_of_isAlphabetic {w more : List Char} {letter : Char}
    (alphabetic : isAlphabetic letter = true) :
    ending w (letter :: more) = ⟨w ++ spoiled w (letter :: more),
      .error (.badNumber (String.ofList (w ++ spoiled w (letter :: more))))⟩ :=
  if_pos alphabetic

/-- A zero is spoiled by the letter of a base that has no digits. -/
theorem badNumber_of_isBaseLetter {w : List Char} (listed : w ∈ zero.matches') {letter : Char}
    (base : isBaseLetter letter = true) (more : List Char) :
    Piece.badNumber (w ++ [letter]) more = ending w (letter :: more) := by
  have alphabetic : isAlphabetic letter = true := spells_isBaseLetter.all (by decide) base
  rw [ending_of_isAlphabetic alphabetic, spoiled, if_pos ⟨listed, base⟩]
  simp [Piece.badNumber]

/-- A decimal numeral is spoiled by the letter of an exponent that has no digits. -/
theorem badNumber_of_isMark {w : List Char} (listed : w ∈ plain.matches') {letter : Char}
    (mark : isMark letter = true) (more : List Char) :
    Piece.badNumber (w ++ letter :: Piece.oneIf isSign more) (afterSign more) =
      ending w (letter :: more) := by
  have alphabetic : isAlphabetic letter = true := spells_isMark.all (by decide) mark
  have noBase : ¬ (w ∈ zero.matches' ∧ isBaseLetter letter = true) := by
    rintro ⟨-, base⟩
    have other := spells_isMark.all (q := (!isBaseLetter ·)) (by decide) mark
    simp [base] at other
  rw [ending_of_isAlphabetic alphabetic, spoiled, if_neg noBase, if_pos ⟨listed, mark⟩]
  simp [Piece.badNumber]

/-! ## Exponents -/

section Exponent

variable {letter : Char} (mark : isMark letter = true) (more : List Char)

include mark

/-- An exponent is read to the end of its digits. -/
theorem longest_exponent (some : (afterSign more).takeWhile isDecimalDigit ≠ []) :
    Longest exponent.matches' (letter :: more)
      (letter :: (Piece.oneIf isSign more ++ (afterSign more).takeWhile isDecimalDigit)) := by
  have digits := (longest_optional_oneOf spells_isSign more).mul
    (oneIf_append_afterSign more) (all_oneIf isSign more) (by decide)
    (longest_repeated spells_isDecimalDigit some)
  exact (longest_oneOf spells_isMark mark more).mul (p := isMark) rfl (by simpa) (by decide)
    digits

/-- Without digits there is no exponent. -/
theorem absent_exponent (none : (afterSign more).takeWhile isDecimalDigit = []) :
    Absent exponent.matches' (letter :: more) := by
  have digits := (longest_optional_oneOf spells_isSign more).absent_mul
    (oneIf_append_afterSign more) (all_oneIf isSign more) (by decide) (by decide)
    (absent_repeated spells_isDecimalDigit none)
  exact (longest_oneOf spells_isMark mark more).absent_mul (p := isMark) rfl (by simpa)
    (by decide) (by decide) digits

end Exponent

/-- **What is read behind a decimal numeral** is the longest exponent, or spoils it. -/
theorem exponent_ends {read rest : List Char} (decimal : read ∈ plain.matches')
    (noBase : read ∈ zero.matches' → rest.head?.any isBaseLetter = false) :
    Ends (optional exponent).matches' read rest (Piece.exponent read rest) := by
  by_cases marked : rest.head?.any isMark = true
  · obtain ⟨letter, more, rfl, mark⟩ := exists_cons_of_any_head? marked
    rw [Piece.exponent_of_isMark mark]
    by_cases none : (afterSign more).takeWhile isDecimalDigit = []
    · -- the letter promised an exponent, so the numeral ends before it and is spoiled
      refine ⟨[], letter :: more, rfl, longest_nil (absent_exponent mark more none), ?_⟩
      rw [Piece.radixDigits_of_nil 10 none, List.append_nil]
      exact badNumber_of_isMark decimal mark more
    · refine ⟨_, (afterSign more).dropWhile isDecimalDigit, ?_,
        (longest_exponent mark more none).optional, ?_⟩
      · rw [List.cons_append, List.append_assoc, List.takeWhile_append_dropWhile,
          oneIf_append_afterSign]
      · have foreign : letter ∉ Grammar.alphabet plain :=
          spells_isMark.not_mem_alphabet (by decide) mark
        rw [Piece.radixDigits_of_ne_nil 10 none, List.append_assoc, List.cons_append]
        exact finishNumber_of_foreign (c := letter) (by simp) foreign _
  · rw [Bool.not_eq_true] at marked
    refine ⟨[], rest, rfl, ?_, ?_⟩
    · exact longest_nil (Grammar.absent_of_firsts (by decide) (by decide) marked)
    · rw [Piece.exponent_of_not_isMark marked, List.append_nil]
      exact finishNumber_eq noBase fun _ => marked

/-! ## Decimal numerals -/

/-- A fraction is read to the end of its digits. -/
theorem longest_fraction (rest : List Char) :
    ∃ f tail, f ++ tail = rest ∧
      Longest (optional (.char '.' * digit.star)).matches' rest f ∧
      ∀ read, Piece.fraction read rest = Piece.exponent (read ++ f) tail := by
  by_cases pointed : rest.head?.any (· == '.') = true
  · obtain ⟨c, more, rfl, point⟩ := exists_cons_of_any_head? pointed
    obtain rfl := beq_iff_eq.1 point
    refine ⟨'.' :: more.takeWhile isDecimalDigit, more.dropWhile isDecimalDigit, ?_, ?_, ?_⟩
    · rw [List.cons_append, List.takeWhile_append_dropWhile]
    · exact ((longest_star spells_isDecimalDigit more).cons '.').optional
    · exact fun read => Piece.fraction_of_point read more
  · rw [Bool.not_eq_true] at pointed
    refine ⟨[], rest, rfl, ?_, ?_⟩
    · exact longest_nil (Grammar.absent_of_firsts (by decide) (by decide) pointed)
    · intro read
      rw [Piece.fraction_of_not_point pointed, List.append_nil]

/-- A decimal number starts with the longest mantissa, and goes on behind it. -/
structure ReadsMantissa (rest m tail : List Char) : Prop where
  split : m ++ tail = rest
  longest : Longest mantissa.matches' rest m
  decimal : ∀ read, Piece.decimal read rest = Piece.exponent (read ++ m) tail

theorem exists_mantissa_of_digit {rest : List Char}
    (digit : rest.head?.any isDecimalDigit = true) : ∃ m tail, ReadsMantissa rest m tail := by
  have whole : rest.takeWhile isDecimalDigit ≠ [] := by
    rw [ne_eq, takeWhile_eq_nil_iff_head?, digit]
    decide
  have inside : ∀ c ∈ rest.takeWhile isDecimalDigit, isDecimalDigit c = true :=
    List.all_eq_true.1 List.all_takeWhile
  have noPoint : rest.head?.any (· == '.') = false := by
    obtain ⟨c, more, rfl, holds⟩ := exists_cons_of_any_head? digit
    rw [List.head?_cons, Option.any_some, beq_eq_false_iff_ne]
    rintro rfl
    revert holds
    decide
  obtain ⟨f, tail, split, longest, fraction⟩ := longest_fraction (rest.dropWhile isDecimalDigit)
  refine ⟨rest.takeWhile isDecimalDigit ++ f, tail, ?_, ?_, ?_⟩
  · rw [List.append_assoc, split, List.takeWhile_append_dropWhile]
  · have joined := (longest_repeated spells_isDecimalDigit whole).mul
      List.takeWhile_append_dropWhile inside (by decide) longest
    exact joined.add_absent (Grammar.absent_of_firsts (by decide) (by decide) noPoint)
  · intro read
    rw [Piece.decimal_eq, fraction, List.append_assoc]

theorem exists_mantissa_of_point {more : List Char}
    (digits : more.head?.any isDecimalDigit = true) :
    ∃ m tail, ReadsMantissa ('.' :: more) m tail := by
  have noDigit : ('.' :: more).head?.any isDecimalDigit = false := rfl
  have some : more.takeWhile isDecimalDigit ≠ [] := by
    rw [ne_eq, takeWhile_eq_nil_iff_head?, digits]
    decide
  refine ⟨'.' :: more.takeWhile isDecimalDigit, more.dropWhile isDecimalDigit, ?_, ?_, ?_⟩
  · rw [List.cons_append, List.takeWhile_append_dropWhile]
  · have point := (longest_repeated spells_isDecimalDigit some).cons '.'
    have noWhole : Absent
        (repeated digit * optional (.char '.' * digit.star)).matches' ('.' :: more) :=
      Grammar.absent_of_firsts (by decide) (by decide) noDigit
    rw [mantissa, RegularExpression.matches'_add, add_comm]
    exact point.add_absent noWhole
  · intro read
    rw [Piece.decimal_eq, takeWhile_eq_nil_iff_head?.2 noDigit, List.append_nil]
    exact Piece.fraction_of_point read more

/-- **The whole part and the fraction** of a decimal number are the longest. -/
theorem exists_mantissa {rest : List Char} (starts : Piece.startsUnsigned rest = true) :
    ∃ m tail, ReadsMantissa rest m tail := by
  cases rest with
  | nil => cases starts
  | cons c more =>
      rw [Piece.startsUnsigned, Bool.or_eq_true, Bool.and_eq_true, beq_iff_eq] at starts
      rcases starts with digit | ⟨rfl, digits⟩
      · exact exists_mantissa_of_digit digit
      · exact exists_mantissa_of_point digits

/-- A zero has no other mantissa than the digit. -/
theorem eq_zero_of_append {s m : List Char} (signs : s ∈ (sign true).matches')
    (listed : m ∈ mantissa.matches') (zeros : s ++ m ∈ zero.matches') : m = ['0'] := by
  have noMinus : ∀ more, m ≠ '-' :: more := by
    rintro more rfl
    have inside := Grammar.mem_alphabet listed List.mem_cons_self
    revert inside
    decide
  obtain ⟨t, others, _, rfl, same⟩ := zeros
  change t ++ ['0'] = s ++ m at same
  rcases mem_sign.1 signs with rfl | ⟨-, rfl⟩ <;>
    rcases mem_sign.1 others with rfl | ⟨-, rfl⟩
  · exact same.symm
  · exact absurd same.symm (noMinus _)
  · cases same
  · exact (List.cons.inj same).2.symm

theorem absent_radixed {cs : List Char} (none : Piece.announced cs = none) :
    Absent radixed.matches' cs := by
  rintro v listed ⟨more, rfl⟩
  obtain ⟨letter, base, ds, found, -, -, rfl⟩ := mem_radixed.1 listed
  have announces : Piece.announced ('0' :: letter :: ds ++ more) = some base := found
  rw [none] at announces
  cases announces

/-- **Without a base** the longest decimal numeral is read. -/
theorem decimal_ends {s cs : List Char} (signs : s ∈ (sign true).matches')
    (starts : Piece.startsUnsigned cs = true) (none : Piece.announced cs = none) :
    Ends unsigned.matches' s cs (Piece.decimal s cs) := by
  obtain ⟨m, tail, mantissas⟩ := exists_mantissa starts
  have listed : s ++ m ∈ plain.matches' := ⟨s, signs, m, mantissas.longest.mem, rfl⟩
  -- behind a zero the letter of a base would have been announced
  have noBase : s ++ m ∈ zero.matches' → tail.head?.any isBaseLetter = false := by
    intro zeros
    have whole := mantissas.split
    rw [eq_zero_of_append signs mantissas.longest.mem zeros] at whole
    cases tail with
    | nil => rfl
    | cons letter more =>
        rw [← whole] at none
        have absent : Piece.radix? letter = Option.none := none
        rw [List.head?_cons, Option.any_some, ← isSome_radix?, absent]
        rfl
  obtain ⟨e, left, split, exponents, read⟩ := exponent_ends listed noBase
  refine ⟨m ++ e, left, ?_, ?_, ?_⟩
  · rw [List.append_assoc, split, mantissas.split]
  · -- no mantissa contains the letter with which every exponent starts
    have noMark : ∀ c ∈ m, (!isMark c) = true := fun c inside =>
      List.all_eq_true.1 (by decide : (Grammar.alphabet mantissa).all (!isMark ·) = true) c
        (Grammar.mem_alphabet mantissas.longest.mem inside)
    have joined := mantissas.longest.mul mantissas.split noMark (by decide) exponents
    rw [unsigned, RegularExpression.matches'_add, add_comm]
    exact joined.add_absent (absent_radixed none)
  · rw [mantissas.decimal, read, List.append_assoc]

/-! ## Numerals with a base -/

section Based

variable {letter : Char} {base : Nat} (found : Piece.radix? letter = some base)

include found

theorem isBaseLetter_of_radix? : isBaseLetter letter = true := by
  rw [← isSome_radix?, found]
  rfl

/-- A numeral with a base that stands first has digits of the base. -/
theorem exists_digits_of_mem_radixed {v rest : List Char} (listed : v ∈ radixed.matches')
    (starts : v <+: '0' :: letter :: rest) :
    ∃ ds, ds ≠ [] ∧ ds <+: rest.takeWhile (isDigitInBase base) ∧ v = '0' :: letter :: ds := by
  obtain ⟨other, otherBase, ds, announces, filled, all, rfl⟩ := mem_radixed.1 listed
  rw [List.cons_prefix_cons, List.cons_prefix_cons] at starts
  obtain ⟨-, rfl, more, rfl⟩ := starts
  obtain rfl : base = otherBase := Option.some.inj (found.symm.trans announces)
  refine ⟨ds, filled, ?_, rfl⟩
  rw [List.takeWhile_append_of_pos all]
  exact List.prefix_append _ _

/-- A decimal numeral that stands first ends before the letter of the base. -/
theorem length_le_one_of_mem_decimal {v rest : List Char}
    (listed : v ∈ (mantissa * optional exponent).matches')
    (starts : v <+: '0' :: letter :: rest) : v.length ≤ 1 := by
  have outside : letter ∉ Grammar.alphabet (mantissa * optional exponent) :=
    spells_isBaseLetter.not_mem_alphabet (by decide) (isBaseLetter_of_radix? found)
  match v with
  | [] | [_] => simp
  | c :: d :: v =>
      rw [List.cons_prefix_cons, List.cons_prefix_cons] at starts
      obtain ⟨-, rfl, -⟩ := starts
      exact absurd (Grammar.mem_alphabet listed (by simp)) outside

/-- Where digits follow the letter, the longest numeral is that of the base. -/
theorem longest_radixed {rest : List Char} (some : rest.takeWhile (isDigitInBase base) ≠ []) :
    Longest unsigned.matches' ('0' :: letter :: rest)
      ('0' :: letter :: rest.takeWhile (isDigitInBase base)) := by
  have longest : Longest radixed.matches' ('0' :: letter :: rest)
      ('0' :: letter :: rest.takeWhile (isDigitInBase base)) := by
    refine ⟨mem_radixed.2 ⟨letter, base, _, found, some, List.all_eq_true.1 List.all_takeWhile,
      rfl⟩, ?_, ?_⟩
    · rw [List.cons_prefix_cons, List.cons_prefix_cons]
      exact ⟨rfl, rfl, List.takeWhile_prefix _⟩
    · intro v listed starts
      obtain ⟨ds, -, inside, rfl⟩ := exists_digits_of_mem_radixed found listed starts
      have short := inside.length_le
      simpa using short
  refine longest.add fun v listed starts => ?_
  have short := length_le_one_of_mem_decimal found listed starts
  exact short.trans (by simp)

/-- Where none follow it, the longest numeral is the zero alone. -/
theorem longest_zero {rest : List Char} (none : rest.takeWhile (isDigitInBase base) = []) :
    Longest unsigned.matches' ('0' :: letter :: rest) ['0'] where
  mem := by decide +kernel
  starts := List.cons_prefix_cons.2 ⟨rfl, List.nil_prefix⟩
  le := by
    rintro v (listed | listed) starts
    · obtain ⟨ds, filled, inside, -⟩ := exists_digits_of_mem_radixed found listed starts
      rw [none] at inside
      exact absurd (List.prefix_nil.1 inside) filled
    · exact length_le_one_of_mem_decimal found listed starts

/-- **With a base** the longest numeral is read, or a zero is spoiled. -/
theorem radixDigits_ends {s : List Char} (signs : s ∈ (sign true).matches')
    (rest : List Char) :
    Ends unsigned.matches' s ('0' :: letter :: rest)
      (Piece.radixDigits base (s ++ ['0', letter]) rest) := by
  have announces := isBaseLetter_of_radix? found
  by_cases none : rest.takeWhile (isDigitInBase base) = []
  · -- the digits are missing, and the zero is a decimal numeral of its own
    refine ⟨['0'], letter :: rest, rfl, longest_zero found none, ?_⟩
    have zeros : s ++ ['0'] ∈ zero.matches' := ⟨s, signs, _, rfl, rfl⟩
    rw [Piece.radixDigits_of_nil base none, ← badNumber_of_isBaseLetter zeros announces,
      List.append_assoc]
    rfl
  · refine ⟨_, rest.dropWhile (isDigitInBase base), ?_, longest_radixed found none, ?_⟩
    · rw [List.cons_append, List.cons_append, List.takeWhile_append_dropWhile]
    · have foreign : letter ∉ Grammar.alphabet plain :=
        spells_isBaseLetter.not_mem_alphabet (by decide) announces
      rw [Piece.radixDigits_of_ne_nil base none, List.append_assoc]
      exact finishNumber_of_foreign (c := letter) (by simp) foreign _

end Based

/-- **A number without its sign** is the longest numeral, or spoils it. -/
theorem unsignedNumber_ends {s cs : List Char} (signs : s ∈ (sign true).matches')
    (starts : Piece.startsUnsigned cs = true) :
    Ends unsigned.matches' s cs (Piece.unsignedNumber s cs) := by
  rw [Piece.unsignedNumber_eq]
  cases found : Piece.announced cs with
  | none => exact decimal_ends signs starts found
  | some base =>
      obtain ⟨letter, rest, rfl, announces⟩ := Piece.exists_of_announced found
      exact radixDigits_ends announces signs rest

/-- **A number behind its sign** is the longest numeral, or spoils it. -/
theorem signed_ends {signed : Bool} {s rest : List Char}
    (longest : Longest (sign signed).matches' (s ++ rest) s)
    (starts : Piece.startsUnsigned rest = true) :
    Ends (numeral signed).matches' [] (s ++ rest) (Piece.unsignedNumber s rest) := by
  have signs := mem_sign.1 longest.mem
  have minus : ∀ c ∈ s, (c == '-') = true := by
    rcases signs with rfl | ⟨-, rfl⟩ <;> simp
  have listed : s ∈ (sign true).matches' :=
    mem_sign.2 (signs.imp_right fun both => ⟨rfl, both.2⟩)
  obtain ⟨u, left, split, numerals, read⟩ := unsignedNumber_ends listed starts
  refine ⟨s ++ u, left, ?_, longest.mul rfl minus (by decide) numerals, read⟩
  rw [List.append_assoc, split]

/-- **A number** is the longest numeral, or spoils it. -/
theorem number_ends {signed : Bool} {cs : List Char}
    (starts : Piece.startsNumber signed cs = true) :
    Ends (numeral signed).matches' [] cs (Piece.number cs) := by
  cases cs with
  | nil => cases starts
  | cons c rest =>
      rw [Piece.startsNumber, Bool.or_eq_true, Bool.and_eq_true, Bool.and_eq_true, beq_iff_eq]
        at starts
      rcases starts with starts | ⟨⟨rfl, rfl⟩, starts⟩
      · have plain : c ≠ '-' := (Piece.solid_of_startsUnsigned starts).2.2.2
        have longest : Longest (sign signed).matches' ([] ++ c :: rest) [] := by
          refine ⟨mem_sign.2 (.inl rfl), List.nil_prefix, ?_⟩
          intro v listed first
          rcases mem_sign.1 listed with rfl | ⟨-, rfl⟩
          · exact le_rfl
          · exact absurd (List.cons_prefix_cons.1 first).1.symm plain
        have same : Piece.number (c :: rest) = Piece.unsignedNumber [] (c :: rest) := by
          simp [Piece.number, Piece.oneIf, plain]
        rw [same]
        exact signed_ends longest starts
      · have longest : Longest (sign true).matches' ('-' :: rest) ['-'] := by
          refine ⟨mem_sign.2 (.inr ⟨rfl, rfl⟩), ⟨rest, rfl⟩, ?_⟩
          intro v listed _
          rcases mem_sign.1 listed with rfl | ⟨-, rfl⟩ <;> simp
        exact signed_ends (s := ['-']) longest starts

/-! ## Where numbers start -/

theorem startsUnsigned_of_mem_mantissa {m : List Char} (listed : m ∈ mantissa.matches') :
    Piece.startsUnsigned m = true := by
  rcases listed with ⟨x, whole, y, -, rfl⟩ | ⟨_, rfl, x, digits, rfl⟩
  · obtain ⟨c, x, rfl, digit⟩ := exists_digit_of_mem_repeated whole
    simp [Piece.startsUnsigned, digit]
  · obtain ⟨c, x, rfl, digit⟩ := exists_digit_of_mem_repeated digits
    simp [Piece.startsUnsigned, digit]

theorem startsUnsigned_of_mem_unsigned {u : List Char} (listed : u ∈ unsigned.matches') :
    Piece.startsUnsigned u = true := by
  rcases listed with listed | ⟨m, mantissas, e, -, rfl⟩
  · obtain ⟨letter, base, ds, -, -, -, rfl⟩ := mem_radixed.1 listed
    rfl
  · exact Piece.startsUnsigned_of_isPrefix (List.prefix_append m e)
      (startsUnsigned_of_mem_mantissa mantissas)

/-- **A number starts** exactly where a numeral stands first. -/
theorem startsNumber_iff {signed : Bool} {cs : List Char} :
    Piece.startsNumber signed cs = true ↔
      ∃ w ∈ (numeral signed).matches', w ≠ [] ∧ w <+: cs := by
  constructor
  · intro starts
    obtain ⟨w, left, -, longest, -⟩ := number_ends starts
    refine ⟨w, longest.mem, ?_, longest.starts⟩
    rintro rfl
    have filled := (Grammar.nil_mem_iff _).1 longest.mem
    cases signed <;> revert filled <;> decide
  · rintro ⟨_, ⟨s, signs, u, listed, rfl⟩, -, first⟩
    change s ++ u <+: cs at first
    have starts := startsUnsigned_of_mem_unsigned listed
    rcases mem_sign.1 signs with rfl | ⟨rfl, rfl⟩
    · exact Piece.startsNumber_of_startsUnsigned (Piece.startsUnsigned_of_isPrefix first starts)
    · obtain ⟨more, rfl⟩ := first
      have here := Piece.startsUnsigned_of_isPrefix (List.prefix_append u more) starts
      simp [Piece.startsNumber, here]

end Numeral

namespace Production

/-- A number is chosen exactly where one starts. -/
theorem choose_eq_number_iff (options : Options) (goal : Goal) (cs : List Char) :
    choose options goal cs = .number ↔
      Piece.startsNumber options.signedNumericLiterals cs = true := by
  rw [choose_eq_iff]
  constructor
  · intro applies
    cases applies with
    | number starts => exact starts
  · exact .number

end Production

namespace Lexer

/-- **Numbers are exactly the longest numerals.** After any commands, let `cs` be the text
to be tokenized first. A number is chosen for it exactly if some numeral, not empty, stands
first there. Let then `w` be the longest one and `left` what follows it. If no letter
follows, the token is the number `w`. If one does, the token is an error that quotes its
own text: `w` and the letter, with one letter more behind the letter of a base or of an
exponent that has no digits. -/
theorem pulls_longest_numerals (name source : String) (options : Options)
    (commands : List Command) (goal : Goal) (short : source.utf8ByteSize < counterBound - 1) :
    ∃ replies lx, (create name source options).drive commands = .ok (replies, lx) ∧
      ∃ cs token after, lx.PullsAt options goal cs token after ∧
        (Production.choose options goal cs = .number ↔
          ∃ w ∈ (Numeral.numeral options.signedNumericLiterals).matches', w ≠ [] ∧ w <+: cs) ∧
        (Production.choose options goal cs = .number →
          ∃ w left, w ++ left = cs ∧
            Longest (Numeral.numeral options.signedNumericLiterals).matches' cs w ∧
            (left.head?.any isAlphabetic = false →
              token.kind = .numericLiteral ∧ token.lexeme.toList = w ∧ token.error = none) ∧
            (left.head?.any isAlphabetic = true →
              token.kind = .error ∧ token.error = some (.badNumber token.lexeme) ∧
              token.lexeme.toList = w ++ Numeral.spoiled w left)) := by
  obtain ⟨replies, lx, run, cs, token, after, pull, carries⟩ :=
    exists_pull name options commands goal short
  refine ⟨replies, lx, run, cs, token, after, pull, ?_, ?_⟩
  · rw [Production.choose_eq_number_iff, Numeral.startsNumber_iff]
  · intro chosen
    obtain ⟨w, left, split, longest, read⟩ :=
      Numeral.number_ends ((Production.choose_eq_number_iff options goal cs).1 chosen)
    have scanned : Piece.scan options goal cs = Numeral.ending w left := by
      rw [Piece.scan, chosen]
      exact read
    obtain ⟨sameKind, sameLexeme, sameError⟩ := carries
    rw [scanned] at sameKind sameLexeme sameError
    refine ⟨w, left, split, longest, ?_, ?_⟩
    · intro ends
      rw [Numeral.ending, ends] at sameKind sameLexeme sameError
      exact ⟨sameKind, sameLexeme, sameError⟩
    · intro goesOn
      rw [Numeral.ending, goesOn] at sameKind sameLexeme sameError
      have text : token.lexeme = String.ofList (w ++ Numeral.spoiled w left) :=
        String.toList_inj.1 (sameLexeme.trans String.toList_ofList.symm)
      refine ⟨sameKind, ?_, sameLexeme⟩
      rw [sameError, text]
      rfl

/-- A sign, no whole part, and an exponent without digits that a letter follows. -/
theorem pulls_longest_numerals_exponent :
    "a -.5e+z1".utf8ByteSize < counterBound - 1 ∧
      ∃ replies lx, (create "a.js" "a -.5e+z1" { captureTrivia := false }).drive
          [.ask (.peek .regExp), .ask (.next .div)] = .ok (replies, lx) ∧
        ∃ cs token after,
          lx.PullsAt { captureTrivia := false } .div cs token after ∧
          cs = "-.5e+z1".toList ∧ Longest (Numeral.numeral true).matches' cs "-.5".toList ∧
          token.kind = .error ∧ token.lexeme = "-.5e+z" ∧
          token.error = some (.badNumber "-.5e+z") := by
  obtain ⟨replies, lx, run, cs, token, after, pull, starts, numbers⟩ :=
    pulls_longest_numerals "a.js" "a -.5e+z1" { captureTrivia := false }
      [.ask (.peek .regExp), .ask (.next .div)] .div (by decide)
  obtain ⟨_, _, evaluated, _, _, pulled, text⟩ :
      ∃ replies lx, (create "a.js" "a -.5e+z1" { captureTrivia := false }).drive
          [.ask (.peek .regExp), .ask (.next .div)] = .ok (replies, lx) ∧
        ∃ token after, lx.next .div = .ok (token, after) ∧
          token.lexeme.toList ++ after.place.rest = "-.5e+z1".toList :=
    ⟨_, _, rfl, _, _, rfl, by decide⟩
  rw [evaluated] at run
  cases run
  have same := pull.pulled
  rw [pulled] at same
  cases same
  have first : cs = "-.5e+z1".toList := pull.split.trans text
  subst first
  have half : "-.5".toList ∈ (Numeral.numeral true).matches' := by decide +kernel
  obtain ⟨w, left, split, longest, -, spoiled⟩ :=
    numbers (starts.2 ⟨"-.5".toList, half, by decide, by decide⟩)
  have three : w = "-.5".toList := by
    have all : ∀ v ∈ "-.5e+z1".toList.inits,
        v ∈ (Numeral.numeral true).matches' → v.length ≤ 3 := by decide +kernel
    have atMost := all w ((List.mem_inits _ _).2 longest.starts) longest.mem
    have atLeast := longest.le _ half (by decide)
    exact ((List.prefix_of_prefix_length_le (by decide) longest.starts atLeast).eq_of_length_le
      atMost).symm
  subst three
  have rest : left = "e+z1".toList := List.append_cancel_left split
  subst rest
  obtain ⟨kind, error, lexeme⟩ := spoiled (by decide)
  have read : token.lexeme = "-.5e+z" := by
    rw [← String.toList_inj, lexeme]
    decide +kernel
  rw [read] at error
  exact ⟨by decide, _, _, evaluated, _, _, _, pull, rfl, longest, kind, read, error⟩

end Lexer

end GoalLexer
