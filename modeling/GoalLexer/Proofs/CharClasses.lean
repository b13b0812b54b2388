import GoalLexer.Text.CharClass

/-!
# Classes that are apart

Tokens end where they do because some classes of characters have none in common. White
space, the line terminators and the digits are few, so a class is `Spaceless` or `Inline`,
or has no digit, as soon as none of their code points is in it.

Names and letters are looked up in tables. All that is used of these tables is that they
hold no line terminator, and no white space where a name may start. The other facts
about names are about ASCII, where the tables are not asked.
-/

set_option autoImplicit false

namespace GoalLexer

/-! ## Classes with few members -/

/-- A class that is listed is apart from every class that none of the list is in. -/
theorem eq_false_of_listed {p q : Char → Bool} {codes : List Nat}
    (listed : ∀ c, p c = true → c.toNat ∈ codes)
    (absent : codes.all (fun n => !q (Char.ofNat n)) = true) (c : Char) (holds : p c = true) :
    q c = false := by
  have outside := List.all_eq_true.1 absent c.toNat (listed c holds)
  rwa [Char.ofNat_toNat, Bool.not_eq_true'] at outside

/-- No line terminator is in the class. -/
def Inline (p : Char → Bool) : Prop := ∀ c, isLineTerminator c = true → p c = false

/-- No white space is in the class. -/
def Spaceless (p : Char → Bool) : Prop := ∀ c, isWhiteSpace c = true → p c = false

section

variable {p : Char → Bool} {c : Char}

/-- There are four line terminators. -/
theorem inline_of_four (four : ['\n', '\r', '\u2028', '\u2029'].all (!p ·) = true) : Inline p := by
  intro c terminator
  have listed : c ∈ ['\n', '\r', '\u2028', '\u2029'] := by
    simpa [isLineTerminator, or_assoc] using terminator
  simpa using List.all_eq_true.1 four c listed

/-- The code points of white space. -/
def whiteSpaceCodes : List Nat :=
  [0x09, 0x0B, 0x0C, 0x20, 0xA0, 0x1680, 0x202F, 0x205F, 0x3000, 0xFEFF] ++ List.range' 0x2000 11

theorem spaceless_of_codes (absent : whiteSpaceCodes.all (fun n => !p (Char.ofNat n)) = true) :
    Spaceless p := by
  refine eq_false_of_listed ?_ absent
  intro c white
  simp only [isWhiteSpace, Bool.or_eq_true, Bool.and_eq_true, beq_iff_eq, decide_eq_true_eq]
    at white
  simp only [whiteSpaceCodes, List.mem_append, List.mem_cons, List.not_mem_nil, or_false,
    List.mem_range'_1]
  omega

theorem Inline.isLineTerminator_eq_false (inline : Inline p) (holds : p c = true) :
    isLineTerminator c = false := by
  rw [← Bool.not_eq_true]
  intro terminator
  rw [inline c terminator] at holds
  cases holds

theorem Spaceless.isWhiteSpace_eq_false (spaceless : Spaceless p) (holds : p c = true) :
    isWhiteSpace c = false := by
  rw [← Bool.not_eq_true]
  intro white
  rw [spaceless c white] at holds
  cases holds

/-- The digits are ten code points in a row. -/
theorem eq_false_of_isDecimalDigit
    (absent : (List.range' 0x30 10).all (fun n => !p (Char.ofNat n)) = true)
    (digit : isDecimalDigit c = true) : p c = false := by
  refine eq_false_of_listed ?_ absent c digit
  intro c digit
  have bounds : 48 ≤ c.toNat ∧ c.toNat ≤ 57 := by
    simpa [isDecimalDigit, Char.isDigit, UInt32.le_iff_toNat_le] using digit
  rw [List.mem_range'_1]
  omega

theorem inline_eq {d : Char} (plain : isLineTerminator d = false) : Inline (· == d) := by
  intro c terminator
  rw [beq_eq_false_iff_ne]
  rintro rfl
  rw [plain] at terminator
  cases terminator

end

theorem inline_isWhiteSpace : Inline isWhiteSpace := inline_of_four (by decide)

theorem inline_isDigitInBase (base : Nat) : Inline (isDigitInBase base) := by
  intro c terminator
  unfold isDigitInBase
  split
  · exact inline_of_four (by decide) c terminator
  · exact inline_of_four (by decide) c terminator
  · exact inline_of_four (by decide) c terminator
  · exact inline_of_four (by decide) c terminator
  · rfl

/-! ## The tables -/

theorem spaceless_isIdStart : Spaceless isIdStart := spaceless_of_codes (by decide +kernel)

theorem inline_isIdStart : Inline isIdStart := inline_of_four (by decide +kernel)

theorem inline_isIdContinue : Inline isIdContinue := inline_of_four (by decide +kernel)

theorem inline_isAlphabetic : Inline isAlphabetic := inline_of_four (by decide +kernel)

end GoalLexer
