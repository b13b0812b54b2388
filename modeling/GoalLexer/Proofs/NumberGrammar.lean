import GoalLexer.Proofs.LongestMatch
import GoalLexer.Proofs.Repetition

/-!
# The grammar of numbers

Numerals are given by a regular expression, `Numeral.numeral`: digits after a zero and the
letter of a base, or a decimal number with an optional fraction and exponent; a minus sign
may stand before them.

Lexing tests characters by classes, the grammar spells them out (`Spells`). A run of a
class is therefore the longest word of digits (`longest_repeated`), and one character of
a class the longest optional one (`longest_optional_oneOf`).
-/

set_option autoImplicit false

namespace GoalLexer

/-! ## The grammar -/

namespace Numeral

/-- One of the characters of a text. -/
def oneOf (chars : String) : RegularExpression Char :=
  chars.toList.foldr (fun c r => .char c + r) 0

def optional (r : RegularExpression Char) : RegularExpression Char := 1 + r

/-- Once or more often. -/
def repeated (r : RegularExpression Char) : RegularExpression Char := r * r.star

def digit : RegularExpression Char := oneOf "0123456789"

/-- A zero, a letter that announces a base, and digits of the base. -/
def based (letters digits : String) : RegularExpression Char :=
  .char '0' * (oneOf letters * repeated (oneOf digits))

def radixed : RegularExpression Char :=
  based "xX" "0123456789abcdefABCDEF" + based "oO" "01234567" + based "bB" "01"

/-- A decimal number without exponent. -/
def mantissa : RegularExpression Char :=
  repeated digit * optional (.char '.' * digit.star) + .char '.' * repeated digit

def exponent : RegularExpression Char :=
  oneOf "eE" * (optional (oneOf "+-") * repeated digit)

def unsigned : RegularExpression Char := radixed + mantissa * optional exponent

/-- A minus sign may stand before a numeral only where signs belong to numbers. -/
def sign : (signed : Bool) → RegularExpression Char
  | true => optional (oneOf "-")
  | false => 1

def numeral (signed : Bool) : RegularExpression Char := sign signed * unsigned

example : ["0", "1.e5", "-.5e+10", "0xfF", "00.", "-0b1"].all
    (fun text => (numeral true).rmatch text.toList) = true := by decide +kernel

example : ["", "-", ".", "1e", "0x", "0b2", "1e+", "--1", ".e1"].any
    (fun text => (numeral true).rmatch text.toList) = false := by decide +kernel

/-! ## Members -/

theorem mem_oneOf {chars : String} {w : List Char} :
    w ∈ (oneOf chars).matches' ↔ ∃ c ∈ chars.toList, w = [c] := by
  unfold oneOf
  induction chars.toList with
  | nil => simp
  | cons c cs ih =>
      have one : w ∈ ({[c]} : Language Char) ↔ w = [c] := Iff.rfl
      rw [List.foldr_cons, RegularExpression.matches'_add, Language.mem_add, ih,
        RegularExpression.matches'_char, one]
      simp

theorem mem_star_oneOf {chars : String} {w : List Char} :
    w ∈ (oneOf chars).star.matches' ↔ ∀ c ∈ w, c ∈ chars.toList := by
  constructor
  · rintro ⟨words, rfl, all⟩ c inside
    obtain ⟨word, among, inside⟩ := List.mem_flatten.1 inside
    obtain ⟨d, listed, rfl⟩ := mem_oneOf.1 (all word among)
    rwa [List.mem_singleton.1 inside]
  · intro all
    refine ⟨w.map ([·]), by rw [← List.flatMap_def, List.flatMap_singleton'], ?_⟩
    intro word among
    obtain ⟨c, inside, rfl⟩ := List.mem_map.1 among
    exact mem_oneOf.2 ⟨c, all c inside, rfl⟩

theorem mem_repeated_oneOf {chars : String} {w : List Char} :
    w ∈ (repeated (oneOf chars)).matches' ↔ w ≠ [] ∧ ∀ c ∈ w, c ∈ chars.toList := by
  constructor
  · rintro ⟨x, first, y, more, rfl⟩
    obtain ⟨c, listed, rfl⟩ := mem_oneOf.1 first
    simpa [listed] using mem_star_oneOf.1 more
  · rintro ⟨filled, all⟩
    obtain ⟨c, w, rfl⟩ := List.exists_cons_of_ne_nil filled
    rw [List.forall_mem_cons] at all
    exact ⟨[c], mem_oneOf.2 ⟨c, all.1, rfl⟩, w, mem_star_oneOf.2 all.2, rfl⟩

theorem mem_sign {signed : Bool} {w : List Char} :
    w ∈ (sign signed).matches' ↔ w = [] ∨ signed = true ∧ w = ['-'] := by
  have one : w ∈ (1 : Language Char) ↔ w = [] := Iff.rfl
  cases signed with
  | true =>
      rw [sign, optional, RegularExpression.matches'_add, Language.mem_add, mem_oneOf,
        RegularExpression.matches'_epsilon, one]
      simp
  | false =>
      rw [sign, RegularExpression.matches'_epsilon, one]
      simp

/-! ## Classes of characters -/

/-- The class consists of the characters of a text. -/
def Spells (p : Char → Bool) (chars : String) : Prop := ∀ c, p c = true ↔ c ∈ chars.toList

/-- A class of ASCII characters is compared with a text character by character. -/
theorem spells_of_ascii {p : Char → Bool} {chars : String}
    (bounded : ∀ c, p c = true → c.toNat < 128)
    (listed : chars.toList.all p = true)
    (agree : (List.range 128).all (fun n => !p (Char.ofNat n) ||
      chars.toList.contains (Char.ofNat n)) = true) : Spells p chars := by
  intro c
  constructor
  · intro holds
    have checked := List.all_eq_true.1 agree c.toNat (List.mem_range.2 (bounded c holds))
    simpa [Char.ofNat_toNat, holds] using checked
  · exact List.all_eq_true.1 listed c

/-- A letter that announces a base behind a zero. -/
def isBaseLetter (c : Char) : Bool := "xXoObB".toList.contains c

/-- The letter of an exponent. -/
def isMark (c : Char) : Bool := c == 'e' || c == 'E'

def isSign (c : Char) : Bool := c == '+' || c == '-'

/-- What follows a sign, if one stands first. -/
def afterSign (cs : List Char) : List Char := cs.drop (Piece.oneIf isSign cs).length

theorem spells_isBaseLetter : Spells isBaseLetter "xXoObB" := by
  intro c
  simp [isBaseLetter]

theorem spells_isMark : Spells isMark "eE" := by
  intro c
  simp [isMark]

theorem spells_isSign : Spells isSign "+-" := by
  intro c
  simp [isSign]

theorem Spells.all {p q : Char → Bool} {chars : String} (spells : Spells p chars)
    (all : chars.toList.all q = true) {c : Char} (holds : p c = true) : q c = true :=
  List.all_eq_true.1 all c ((spells c).1 holds)

theorem Spells.not_mem_alphabet {p : Char → Bool} {chars : String} (spells : Spells p chars)
    {r : RegularExpression Char}
    (apart : chars.toList.all (!(Grammar.alphabet r).contains ·) = true) {c : Char}
    (holds : p c = true) : c ∉ Grammar.alphabet r := by
  have outside := spells.all apart holds
  simpa using outside

theorem isSome_radix? (c : Char) : (Piece.radix? c).isSome = isBaseLetter c := by
  unfold Piece.radix? isBaseLetter
  grind

theorem spells_isDecimalDigit : Spells isDecimalDigit "0123456789" := by
  apply spells_of_ascii
  · intro c digit
    have bounds : 48 ≤ c.toNat ∧ c.toNat ≤ 57 := by
      simpa [isDecimalDigit, Char.isDigit, UInt32.le_iff_toNat_le] using digit
    omega
  · decide
  · decide +kernel

/-- A base with the letters that announce it and its digits. -/
structure Announced (base : Nat) (letters digits : String) : Prop where
  letter : ∀ c, Piece.radix? c = some base ↔ c ∈ letters.toList
  digit : Spells (isDigitInBase base) digits

theorem announced_hex : Announced 16 "xX" "0123456789abcdefABCDEF" where
  letter := by
    intro c
    unfold Piece.radix?
    grind
  digit := by
    apply spells_of_ascii
    · intro c digit
      have bounds : ((48 ≤ c.toNat ∧ c.toNat ≤ 57) ∨ (97 ≤ c.toNat ∧ c.toNat ≤ 102)) ∨
          (65 ≤ c.toNat ∧ c.toNat ≤ 70) := by
        simpa [isDigitInBase, isHexDigit, Char.isDigit, Char.le_def, UInt32.le_iff_toNat_le]
          using digit
      omega
    · decide
    · decide +kernel

theorem announced_octal : Announced 8 "oO" "01234567" where
  letter := by
    intro c
    unfold Piece.radix?
    grind
  digit := by
    apply spells_of_ascii
    · intro c digit
      have bounds : 48 ≤ c.toNat ∧ c.toNat ≤ 55 := by
        simpa [isDigitInBase, isOctalDigit, Char.le_def, UInt32.le_iff_toNat_le] using digit
      omega
    · decide
    · decide +kernel

theorem announced_binary : Announced 2 "bB" "01" where
  letter := by
    intro c
    unfold Piece.radix?
    grind
  digit := by
    intro c
    simp [isDigitInBase, isBinaryDigit]

theorem Announced.mem_based {base : Nat} {letters digits : String}
    (announced : Announced base letters digits) {w : List Char} :
    w ∈ (based letters digits).matches' ↔ ∃ letter ds, Piece.radix? letter = some base ∧
      ds ≠ [] ∧ (∀ c ∈ ds, isDigitInBase base c = true) ∧ w = '0' :: letter :: ds := by
  constructor
  · rintro ⟨_, rfl, _, ⟨_, one, ds, more, rfl⟩, rfl⟩
    obtain ⟨letter, listed, rfl⟩ := mem_oneOf.1 one
    obtain ⟨filled, all⟩ := mem_repeated_oneOf.1 more
    exact ⟨letter, ds, (announced.letter letter).2 listed, filled,
      fun c inside => (announced.digit c).2 (all c inside), rfl⟩
  · rintro ⟨letter, ds, found, filled, all, rfl⟩
    refine ⟨['0'], rfl, _, ⟨[letter], ?_, ds, ?_, rfl⟩, rfl⟩
    · exact mem_oneOf.2 ⟨letter, (announced.letter letter).1 found, rfl⟩
    · exact mem_repeated_oneOf.2 ⟨filled, fun c inside => (announced.digit c).1 (all c inside)⟩

theorem exists_digit_of_mem_repeated {w : List Char} (listed : w ∈ (repeated digit).matches') :
    ∃ c more, w = c :: more ∧ isDecimalDigit c = true := by
  obtain ⟨filled, all⟩ := mem_repeated_oneOf.1 listed
  obtain ⟨c, more, rfl⟩ := List.exists_cons_of_ne_nil filled
  exact ⟨c, more, rfl, (spells_isDecimalDigit c).2 (all c List.mem_cons_self)⟩

/-- **Numerals with a base** are those of the bases that a letter announces. -/
theorem mem_radixed {w : List Char} :
    w ∈ radixed.matches' ↔ ∃ letter base ds, Piece.radix? letter = some base ∧ ds ≠ [] ∧
      (∀ c ∈ ds, isDigitInBase base c = true) ∧ w = '0' :: letter :: ds := by
  have three : w ∈ radixed.matches' ↔ ∃ base, (base = 16 ∨ base = 8 ∨ base = 2) ∧
      ∃ letter ds, Piece.radix? letter = some base ∧ ds ≠ [] ∧
        (∀ c ∈ ds, isDigitInBase base c = true) ∧ w = '0' :: letter :: ds := by
    simp only [radixed, RegularExpression.matches'_add, Language.mem_add, announced_hex.mem_based,
      announced_octal.mem_based, announced_binary.mem_based, or_and_right, exists_or,
      exists_eq_left, or_assoc]
  rw [three]
  constructor
  · rintro ⟨base, -, letter, ds, found⟩
    exact ⟨letter, base, ds, found⟩
  · rintro ⟨letter, base, ds, found, rest⟩
    refine ⟨base, ?_, letter, ds, found, rest⟩
    unfold Piece.radix? at found
    grind

/-! ## Longest parts -/

section Parts

variable {chars : String} {p : Char → Bool} {cs : List Char}

theorem exists_cons_of_any_head? (found : cs.head?.any p = true) :
    ∃ c more, cs = c :: more ∧ p c = true := by
  cases cs with
  | nil => cases found
  | cons c more => exact ⟨c, more, rfl, found⟩

theorem all_oneIf (p : Char → Bool) (cs : List Char) : ∀ c ∈ Piece.oneIf p cs, p c = true := by
  cases cs <;> simp [Piece.oneIf]

theorem oneIf_append_afterSign (cs : List Char) :
    Piece.oneIf isSign cs ++ afterSign cs = cs :=
  Piece.oneIf_append_drop_length isSign cs

theorem longest_star (spells : Spells p chars) (cs : List Char) :
    Longest (oneOf chars).star.matches' cs (cs.takeWhile p) := by
  apply longest_takeWhile
  · intro x listed c inside
    exact (spells c).2 (mem_star_oneOf.1 listed c inside)
  · refine mem_star_oneOf.2 fun c inside => (spells c).1 ?_
    exact List.all_eq_true.1 List.all_takeWhile c inside

theorem longest_repeated (spells : Spells p chars) (filled : cs.takeWhile p ≠ []) :
    Longest (repeated (oneOf chars)).matches' cs (cs.takeWhile p) := by
  apply longest_takeWhile
  · intro x listed c inside
    exact (spells c).2 ((mem_repeated_oneOf.1 listed).2 c inside)
  · refine mem_repeated_oneOf.2 ⟨filled, fun c inside => (spells c).1 ?_⟩
    exact List.all_eq_true.1 List.all_takeWhile c inside

/-- Where a run is empty, no word of the class stands first. -/
theorem absent_repeated (spells : Spells p chars) (empty : cs.takeWhile p = []) :
    Absent (repeated (oneOf chars)).matches' cs := by
  rintro v listed ⟨more, rfl⟩
  obtain ⟨filled, all⟩ := mem_repeated_oneOf.1 listed
  rw [List.takeWhile_append_of_pos fun c inside => (spells c).2 (all c inside)] at empty
  exact filled (List.append_eq_nil_iff.1 empty).1

theorem longest_oneOf (spells : Spells p chars) {c : Char} (holds : p c = true)
    (cs : List Char) : Longest (oneOf chars).matches' (c :: cs) [c] where
  mem := mem_oneOf.2 ⟨c, (spells c).1 holds, rfl⟩
  starts := List.cons_prefix_cons.2 ⟨rfl, List.nil_prefix⟩
  le := by
    intro v listed _
    obtain ⟨d, -, rfl⟩ := mem_oneOf.1 listed
    exact le_rfl

/-- One character of a class, if one stands first. -/
theorem longest_optional_oneOf (spells : Spells p chars) (cs : List Char) :
    Longest (optional (oneOf chars)).matches' cs (Piece.oneIf p cs) := by
  by_cases found : Piece.oneIf p cs = []
  · rw [found]
    refine longest_nil ?_
    rintro v listed ⟨more, rfl⟩
    obtain ⟨c, among, rfl⟩ := mem_oneOf.1 listed
    simp [Piece.oneIf, (spells c).2 among] at found
  · rw [Piece.oneIf_eq_nil_iff, Bool.not_eq_false] at found
    obtain ⟨c, cs, rfl, holds⟩ := exists_cons_of_any_head? found
    have taken : Piece.oneIf p (c :: cs) = [c] := by simp [Piece.oneIf, holds]
    rw [taken]
    exact (longest_oneOf spells holds cs).optional

end Parts

end Numeral

end GoalLexer
