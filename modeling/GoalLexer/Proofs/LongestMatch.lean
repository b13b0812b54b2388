import Mathlib.Computability.RegularExpressions

/-!
# Longest match

A `Longest` word of a language stands first in a text, and no word of the language that
stands first there is longer. It is found part by part: `Longest.mul` for a language that
is read before another one, `Longest.add` for a choice, `longest_takeWhile` for runs of a
class of characters.

That one part ends where the next one begins is a matter of the characters that words
consist of and start with. For a regular expression both are computed, `alphabet` and
`firsts`, so the conditions of the rules are decided.
-/

set_option autoImplicit false

namespace GoalLexer

/-! ## Characters of regular expressions -/

namespace Grammar

/-- The characters that words of a regular expression may consist of. -/
def alphabet : RegularExpression Char → List Char
  | .zero | .epsilon => []
  | .char c => [c]
  | .plus r s | .comp r s => alphabet r ++ alphabet s
  | .star r => alphabet r

/-- The characters that words of a regular expression may start with. -/
def firsts : RegularExpression Char → List Char
  | .zero | .epsilon => []
  | .char c => [c]
  | .plus r s => firsts r ++ firsts s
  | .comp r s => firsts r ++ if r.matchEpsilon then firsts s else []
  | .star r => firsts r

theorem mem_alphabet {r : RegularExpression Char} {w : List Char} (listed : w ∈ r.matches')
    {c : Char} (inside : c ∈ w) : c ∈ alphabet r := by
  induction r generalizing w with
  | zero => cases listed
  | epsilon =>
      cases listed
      cases inside
  | char d =>
      cases listed
      exact inside
  | plus r s ihr ihs =>
      rcases listed with listed | listed
      · exact List.mem_append_left _ (ihr listed inside)
      · exact List.mem_append_right _ (ihs listed inside)
  | comp r s ihr ihs =>
      obtain ⟨x, first, y, second, rfl⟩ := Language.mem_mul.1 listed
      rcases List.mem_append.1 inside with inside | inside
      · exact List.mem_append_left _ (ihr first inside)
      · exact List.mem_append_right _ (ihs second inside)
  | star r ih =>
      obtain ⟨words, rfl, all⟩ := Language.mem_kstar.1 listed
      obtain ⟨word, among, inside⟩ := List.mem_flatten.1 inside
      exact ih (all word among) inside

theorem nil_mem_iff (r : RegularExpression Char) : [] ∈ r.matches' ↔ r.matchEpsilon = true :=
  (r.rmatch_iff_matches' []).symm

theorem head?_mem_firsts {r : RegularExpression Char} {w : List Char} (listed : w ∈ r.matches')
    {c : Char} (first : w.head? = some c) : c ∈ firsts r := by
  induction r generalizing w with
  | zero => cases listed
  | epsilon =>
      cases listed
      cases first
  | char d =>
      cases listed
      cases first
      exact List.mem_singleton_self _
  | plus r s ihr ihs =>
      rcases listed with listed | listed
      · exact List.mem_append_left _ (ihr listed first)
      · exact List.mem_append_right _ (ihs listed first)
  | comp r s ihr ihs =>
      obtain ⟨x, one, y, other, rfl⟩ := Language.mem_mul.1 listed
      cases x with
      | nil =>
          rw [firsts, if_pos ((nil_mem_iff r).1 one)]
          exact List.mem_append_right _ (ihs other first)
      | cons d x => exact List.mem_append_left _ (ihr one first)
  | star r ih =>
      obtain ⟨words, rfl, all⟩ := Language.mem_kstar_iff_exists_nonempty.1 listed
      cases words with
      | nil => cases first
      | cons word words =>
          obtain ⟨inStar, filled⟩ := all word List.mem_cons_self
          obtain ⟨d, word, rfl⟩ := List.exists_cons_of_ne_nil filled
          exact ih inStar first

/-- No word of the expression starts with a character of a class. -/
theorem any_head?_of_firsts {r : RegularExpression Char} {p : Char → Bool}
    (apart : (firsts r).all (!p ·) = true) {w : List Char} (listed : w ∈ r.matches') :
    w.head?.any p = false := by
  cases first : w.head? with
  | none => rfl
  | some c => simpa using List.all_eq_true.1 apart c (head?_mem_firsts listed first)

end Grammar

/-! ## Longest words -/

/-- The word is of the language and stands first in the text, and no such word is longer. -/
structure Longest (l : Language Char) (cs w : List Char) : Prop where
  mem : w ∈ l
  starts : w <+: cs
  le : ∀ v ∈ l, v <+: cs → v.length ≤ w.length

/-- No word of the language stands first in the text. -/
def Absent (l : Language Char) (cs : List Char) : Prop := ∀ v ∈ l, ¬ v <+: cs

/-- No word of an expression stands first where the first character starts none. -/
theorem Grammar.absent_of_firsts {r : RegularExpression Char} {p : Char → Bool}
    {cs : List Char} (filled : r.matchEpsilon = false) (inside : (firsts r).all p = true)
    (stops : cs.head?.any p = false) : Absent r.matches' cs := by
  rintro v listed ⟨more, rfl⟩
  cases v with
  | nil => simp [(nil_mem_iff r).1 listed] at filled
  | cons c v =>
      have holds := List.all_eq_true.1 inside c (head?_mem_firsts listed rfl)
      simp [holds] at stops

section Longest

variable {l m : Language Char} {cs g tail w : List Char} {p : Char → Bool}

theorem Longest.add (longest : Longest l cs w) (le : ∀ v ∈ m, v <+: cs → v.length ≤ w.length) :
    Longest (l + m) cs w where
  mem := .inl longest.mem
  starts := longest.starts
  le := by
    rintro v (listed | listed) starts
    · exact longest.le v listed starts
    · exact le v listed starts

theorem Longest.add_absent (longest : Longest l cs w) (absent : Absent m cs) :
    Longest (l + m) cs w :=
  longest.add fun v listed starts => absurd starts (absent v listed)

/-- An option that is not taken. -/
theorem longest_nil (absent : Absent l cs) : Longest (1 + l) cs [] :=
  Longest.add_absent ⟨rfl, List.nil_prefix, fun v empty _ => by cases empty; rfl⟩ absent

/-- An option that is taken. -/
theorem Longest.optional (longest : Longest l cs w) : Longest (1 + l) cs w := by
  rw [add_comm]
  refine longest.add ?_
  intro v empty _
  cases empty
  exact Nat.zero_le _

theorem Longest.cons (longest : Longest l cs w) (c : Char) :
    Longest ({[c]} * l) (c :: cs) (c :: w) where
  mem := ⟨[c], rfl, w, longest.mem, rfl⟩
  starts := List.cons_prefix_cons.2 ⟨rfl, longest.starts⟩
  le := by
    rintro _ ⟨_, rfl, v, listed, rfl⟩ starts
    have inner := longest.le v listed (List.cons_prefix_cons.1 starts).2
    simpa using inner

/-- What comes before a word that does not go on in a class is all of the class. -/
theorem Longest.eq_of_append (longest : Longest l (g ++ tail) g) (inside : ∀ c ∈ g, p c = true)
    {x y : List Char} (listed : x ∈ l) (filled : y ≠ []) (stops : y.head?.any p = false)
    (starts : x ++ y <+: g ++ tail) : x = g := by
  have before : x <+: g ++ tail := (List.prefix_append x y).trans starts
  have short := longest.le x listed before
  obtain ⟨more, rfl⟩ := List.prefix_of_prefix_length_le before (List.prefix_append g tail) short
  cases more with
  | nil => exact (List.append_nil x).symm
  | cons c more =>
      -- the next character is of the class on the one hand and stops it on the other
      obtain ⟨d, y, rfl⟩ := List.exists_cons_of_ne_nil filled
      rw [List.append_assoc, List.prefix_append_right_inj] at starts
      have same : d = c := (List.cons_prefix_cons.1 starts).1
      have holds := inside c (by simp)
      simp [same, holds] at stops

/-- **One language before another**: where the longest word of the first is of a class, and
no word of the second starts in that class, the longest words are joined. -/
theorem Longest.mul {r : RegularExpression Char} (first : Longest l cs g)
    (split : g ++ tail = cs) (inside : ∀ c ∈ g, p c = true)
    (apart : (Grammar.firsts r).all (!p ·) = true) (second : Longest r.matches' tail w) :
    Longest (l * r.matches') cs (g ++ w) where
  mem := Language.append_mem_mul first.mem second.mem
  starts := split ▸ (List.prefix_append_right_inj g).2 second.starts
  le := by
    subst split
    rintro _ ⟨x, listed, y, listedNext, rfl⟩ starts
    change x ++ y <+: g ++ tail at starts
    change (x ++ y).length ≤ (g ++ w).length
    rw [List.length_append, List.length_append]
    by_cases empty : y = []
    · subst empty
      have short := first.le x listed (by simpa using starts)
      simp only [List.length_nil]
      omega
    · have stops := Grammar.any_head?_of_firsts apart listedNext
      have same := first.eq_of_append inside listed empty stops starts
      subst same
      have short := second.le y listedNext ((List.prefix_append_right_inj x).1 starts)
      omega

/-- What is missing behind the longest word of one language is missing altogether. -/
theorem Longest.absent_mul {r : RegularExpression Char} (first : Longest l cs g)
    (split : g ++ tail = cs) (inside : ∀ c ∈ g, p c = true)
    (apart : (Grammar.firsts r).all (!p ·) = true) (filled : r.matchEpsilon = false)
    (absent : Absent r.matches' tail) : Absent (l * r.matches') cs := by
  subst split
  rintro _ ⟨x, listed, y, listedNext, rfl⟩ starts
  have some : y ≠ [] := by
    rintro rfl
    simp [(Grammar.nil_mem_iff r).1 listedNext] at filled
  have stops := Grammar.any_head?_of_firsts apart listedNext
  have same := first.eq_of_append inside listed some stops starts
  subst same
  exact absent y listedNext ((List.prefix_append_right_inj x).1 starts)

/-- The longest run of a class. -/
theorem longest_takeWhile (inClass : ∀ x ∈ l, ∀ c ∈ x, p c = true) (run : cs.takeWhile p ∈ l) :
    Longest l cs (cs.takeWhile p) where
  mem := run
  starts := List.takeWhile_prefix p
  le := by
    rintro v listed ⟨more, rfl⟩
    rw [List.takeWhile_append_of_pos (inClass v listed), List.length_append]
    omega

end Longest

end GoalLexer
