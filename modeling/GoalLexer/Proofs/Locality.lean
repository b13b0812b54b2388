import GoalLexer.Proofs.Pieces

/-!
# Bounded look-ahead of productions

Two texts `Agree` on `n` characters when their first `n` are the same, or when
both end before. A production is `Local`: texts that agree on its lexeme and on
one character more give the same piece (`Production.run_local`). The choice of a
production looks two characters past the lexeme, as in `-.5` against `-.a` and in
`...` against `..a`, so a whole scan is decided by two characters behind its
lexeme: `Piece.scan_eq_of_agree`.
-/

set_option autoImplicit false

namespace GoalLexer

/-- The first `n` characters are the same, or both texts end before. -/
def Agree (n : Nat) (cs ds : List Char) : Prop := cs.take n = ds.take n

namespace Agree

variable {n : Nat} {cs ds : List Char}

theorem mono {m : Nat} (agree : Agree n cs ds) (fewer : m ≤ n) : Agree m cs ds := by
  have cut := congrArg (List.take m) agree
  rwa [List.take_take, List.take_take, Nat.min_eq_left fewer] at cut

theorem drop (k : Nat) (agree : Agree n cs ds) : Agree (n - k) (cs.drop k) (ds.drop k) := by
  have cut := congrArg (List.drop k) agree
  rwa [List.drop_take, List.drop_take] at cut

theorem eq_of_length_lt (agree : Agree n cs ds) (shorter : cs.length < n) : ds = cs := by
  have whole : cs = ds.take n := by
    rw [← agree, List.take_of_length_le (Nat.le_of_lt shorter)]
  have bound : ds.length ≤ n := by
    have sizes := congrArg List.length whole
    rw [List.length_take] at sizes
    omega
  rw [whole, List.take_of_length_le bound]

/-- The texts that agree on a character: both empty, or with the same head. -/
theorem cases (agree : Agree (n + 1) cs ds) :
    (cs = [] ∧ ds = []) ∨
      ∃ c cs' ds', cs = c :: cs' ∧ ds = c :: ds' ∧ Agree n cs' ds' := by
  unfold Agree at agree
  cases cs with
  | nil =>
      cases ds with
      | nil => exact Or.inl ⟨rfl, rfl⟩
      | cons d ds => simp at agree
  | cons c cs =>
      cases ds with
      | nil => simp at agree
      | cons d ds =>
          simp only [List.take_succ_cons, List.cons.injEq] at agree
          obtain ⟨rfl, rest⟩ := agree
          exact Or.inr ⟨c, cs, ds, rfl, rfl, rest⟩

theorem of_cons {c : Char} (agree : Agree (n + 1) (c :: cs) ds) :
    ∃ ds', ds = c :: ds' ∧ Agree n cs ds' := by
  rcases agree.cases with ⟨impossible, -⟩ | ⟨_, _, ds', same, split, rest⟩
  · cases impossible
  · cases same
    exact ⟨ds', split, rest⟩

theorem head? (agree : Agree n cs ds) (pos : 0 < n) : ds.head? = cs.head? := by
  obtain ⟨m, rfl⟩ : ∃ m, n = m + 1 := ⟨n - 1, by omega⟩
  rcases agree.cases with ⟨rfl, rfl⟩ | ⟨c, cs, ds, rfl, rfl, -⟩ <;> rfl

theorem take_one (agree : Agree n cs ds) (pos : 0 < n) : ds.take 1 = cs.take 1 :=
  (agree.mono pos).symm

/-- A run of characters ends alike where the texts agree on one character more. -/
theorem takeWhile (p : Char → Bool) (agree : Agree n cs ds)
    (inside : (cs.takeWhile p).length < n) : ds.takeWhile p = cs.takeWhile p := by
  induction cs generalizing n ds with
  | nil => rw [agree.eq_of_length_lt inside]
  | cons c cs ih =>
      obtain ⟨m, rfl⟩ : ∃ m, n = m + 1 := ⟨n - 1, by omega⟩
      obtain ⟨ds, rfl, rest⟩ := agree.of_cons
      rw [List.takeWhile_cons, List.takeWhile_cons] at *
      split
      · rename_i holds
        rw [if_pos holds, List.length_cons] at inside
        rw [ih rest (by omega)]
      · rfl

theorem dropWhile (p : Char → Bool) (agree : Agree n cs ds)
    (inside : (cs.takeWhile p).length < n) :
    Agree (n - (cs.takeWhile p).length) (cs.dropWhile p) (ds.dropWhile p) := by
  have cut : ∀ es : List Char, es.dropWhile p = es.drop (es.takeWhile p).length := by
    intro es
    conv => rhs; rhs; rw [← List.takeWhile_append_dropWhile (p := p) (l := es)]
    exact List.drop_left.symm
  rw [cut cs, cut ds, agree.takeWhile p inside]
  exact agree.drop _

theorem oneIf (p : Char → Bool) (agree : Agree n cs ds) (pos : 0 < n) :
    Piece.oneIf p ds = Piece.oneIf p cs := by
  obtain ⟨m, rfl⟩ : ∃ m, n = m + 1 := ⟨n - 1, by omega⟩
  rcases agree.cases with ⟨rfl, rfl⟩ | ⟨c, cs, ds, rfl, rfl, -⟩ <;> rfl

theorem isPrefixOf {text : List Char} (agree : Agree n cs ds) (fits : text.length ≤ n) :
    text.isPrefixOf ds = text.isPrefixOf cs := by
  have decided : ∀ es : List Char, text.isPrefixOf es = decide (es.take text.length = text) := by
    intro es
    rw [Bool.eq_iff_iff, List.isPrefixOf_iff_prefix, decide_eq_true_iff,
      List.prefix_iff_eq_take, eq_comm]
  rw [decided cs, decided ds, agree.mono fits]

end Agree

namespace Piece

/-- What `f` makes of a text, going on from characters already read, is decided
by its lexeme and one character more. -/
def LocalAfter (read : List Char) (f : List Char → Piece) : Prop :=
  ∀ {cs ds : List Char} {n : Nat}, (f cs).lexeme.length < read.length + n → Agree n cs ds →
    f ds = f cs

/-- What `f` makes of a text is decided by its lexeme and one character more. -/
def Local (f : List Char → Piece) : Prop :=
  ∀ {cs ds : List Char} {n : Nat}, (f cs).lexeme.length < n → Agree n cs ds → f ds = f cs

theorem Extends.length_le {read rest : List Char} {piece : Piece}
    (ext : Extends read rest piece) : read.length ≤ piece.lexeme.length :=
  ext.keeps.length_le

/-! ## Numbers -/

theorem badNumber_of_head? {read cs ds : List Char} (same : ds.head? = cs.head?) :
    badNumber read ds = badNumber read cs := by
  have letter : oneIf isAlphabetic ds = oneIf isAlphabetic cs := by
    cases cs with
    | nil => rw [List.head?_nil, List.head?_eq_none_iff] at same; rw [same]
    | cons c cs =>
        obtain ⟨ds, rfl⟩ := List.head?_eq_some_iff.1 same
        rfl
  unfold badNumber
  rw [letter]

theorem finishNumber_of_head? {read cs ds : List Char} (same : ds.head? = cs.head?) :
    finishNumber read ds = finishNumber read cs := by
  unfold finishNumber
  rw [same, badNumber_of_head? same]

theorem finishNumber_local (read : List Char) : LocalAfter read (finishNumber read) := by
  intro cs ds n short agree
  have kept := (finishNumber_extends read cs).length_le
  exact finishNumber_of_head? (agree.head? (by omega))

/-- Reading a run of characters first keeps a production local: the run ends alike,
and so does what goes on behind it. -/
theorem run_then_local (p : Char → Bool) {g : List Char → List Char → Piece}
    (ext : ∀ read rest, Extends read rest (g read rest)) (loc : ∀ read, LocalAfter read (g read))
    (read : List Char) {cs ds : List Char} {n : Nat} (agree : Agree n cs ds)
    (short : (g (read ++ cs.takeWhile p) (cs.dropWhile p)).lexeme.length < read.length + n) :
    ds.takeWhile p = cs.takeWhile p ∧
      g (read ++ cs.takeWhile p) (ds.dropWhile p) =
        g (read ++ cs.takeWhile p) (cs.dropWhile p) := by
  have kept := (ext (read ++ cs.takeWhile p) (cs.dropWhile p)).length_le
  rw [List.length_append] at kept
  have inside : (cs.takeWhile p).length < n := by omega
  refine ⟨agree.takeWhile p inside, loc _ ?_ (agree.dropWhile p inside)⟩
  rw [List.length_append]
  omega

theorem radixDigits_local (base : Nat) (read : List Char) :
    LocalAfter read (radixDigits base read) := by
  intro cs ds n short agree
  have pos : 0 < n := by
    have kept := (radixDigits_extends base read cs).length_le
    omega
  simp only [radixDigits] at short ⊢
  by_cases none : (cs.takeWhile (isDigitInBase base)).isEmpty = true
  · have inside : (cs.takeWhile (isDigitInBase base)).length < n := by
      rwa [List.isEmpty_iff.1 none]
    rw [agree.takeWhile _ inside, if_pos none, if_pos none]
    exact badNumber_of_head? (agree.head? pos)
  · rw [if_neg none] at short
    obtain ⟨sameRun, sameRest⟩ :=
      run_then_local _ finishNumber_extends finishNumber_local read agree short
    rw [sameRun, if_neg none, if_neg none, sameRest]

/-- Reading one character first, if it is of a kind, keeps a production local. -/
theorem one_then_local (p : Char → Bool) {g : List Char → List Char → Piece}
    (ext : ∀ read rest, Extends read rest (g read rest)) (loc : ∀ read, LocalAfter read (g read))
    (read : List Char) {cs ds : List Char} {n : Nat} (agree : Agree n cs ds)
    (short : (g (read ++ oneIf p cs) (cs.drop (oneIf p cs).length)).lexeme.length <
      read.length + n) :
    oneIf p ds = oneIf p cs ∧
      g (read ++ oneIf p cs) (ds.drop (oneIf p cs).length) =
        g (read ++ oneIf p cs) (cs.drop (oneIf p cs).length) := by
  have kept := (ext (read ++ oneIf p cs) (cs.drop (oneIf p cs).length)).length_le
  rw [List.length_append] at kept
  refine ⟨agree.oneIf p (by omega), loc _ ?_ (agree.drop _)⟩
  rw [List.length_append]
  omega

theorem exponentDigits_local (read : List Char) : LocalAfter read (exponentDigits read) := by
  intro cs ds n short agree
  rw [exponentDigits_eq] at short
  obtain ⟨sameSign, sameRest⟩ :=
    one_then_local _ (radixDigits_extends 10) (radixDigits_local 10) read agree short
  rw [exponentDigits_eq, exponentDigits_eq, sameSign, sameRest]

/-- Where one character is read, it is the first one. -/
theorem length_oneIf {p : Char → Bool} {cs : List Char} (taken : ¬ (oneIf p cs).isEmpty = true) :
    (oneIf p cs).length = 1 := by
  cases cs with
  | nil => exact absurd rfl taken
  | cons c cs =>
      simp only [oneIf] at taken ⊢
      split
      · rfl
      · rename_i fails
        rw [if_neg fails] at taken
        exact absurd rfl taken

theorem exponent_local (read : List Char) : LocalAfter read (exponent read) := by
  intro cs ds n short agree
  have pos : 0 < n := by
    have kept := (exponent_extends read cs).length_le
    omega
  simp only [exponent] at short ⊢
  rw [agree.oneIf _ pos]
  by_cases none : (oneIf (fun c => c == 'e' || c == 'E') cs).isEmpty = true
  · rw [if_pos none, if_pos none]
    exact finishNumber_of_head? (agree.head? pos)
  · rw [if_neg none, ← length_oneIf none] at short
    rw [if_neg none, if_neg none, ← length_oneIf none]
    exact (one_then_local _ exponentDigits_extends exponentDigits_local read agree short).2

theorem fractionDigits_local (read : List Char) : LocalAfter read (fractionDigits read) := by
  intro cs ds n short agree
  obtain ⟨sameRun, sameRest⟩ := run_then_local _ exponent_extends exponent_local read agree short
  unfold fractionDigits
  rw [sameRun, sameRest]

theorem fraction_local (read : List Char) : LocalAfter read (fraction read) := by
  intro cs ds n short agree
  have pos : 0 < n := by
    have kept := (fraction_extends read cs).length_le
    omega
  simp only [fraction] at short ⊢
  rw [agree.oneIf _ pos]
  by_cases none : (oneIf (· == '.') cs).isEmpty = true
  · rw [if_pos none] at short
    rw [if_pos none, if_pos none]
    exact exponent_local read short agree
  · rw [if_neg none, ← length_oneIf none] at short
    rw [if_neg none, if_neg none, ← length_oneIf none]
    exact (one_then_local _ fractionDigits_extends fractionDigits_local read agree short).2

theorem decimal_local (read : List Char) : LocalAfter read (decimal read) := by
  intro cs ds n short agree
  rw [decimal_eq] at short
  obtain ⟨sameRun, sameRest⟩ := run_then_local _ fraction_extends fraction_local read agree short
  rw [decimal_eq, decimal_eq, sameRun, sameRest]

/-- The base that the first two characters announce. -/
def announced : List Char → Option Nat
  | '0' :: letter :: _ => radix? letter
  | _ => none

theorem unsignedNumber_eq (sign cs : List Char) :
    unsignedNumber sign cs =
      match announced cs with
      | some base => radixDigits base (sign ++ cs.take 2) (cs.drop 2)
      | none => decimal sign cs := by
  unfold unsignedNumber
  split
  · rename_i letter rest
    simp only [announced]
    cases radix? letter with
    | none => rfl
    | some base => rfl
  · rename_i other
    have absent : announced cs = none := by
      unfold announced
      split
      · exact absurd rfl (other _ _)
      · rfl
    rw [absent]

theorem announced_of_agree {cs ds : List Char} (agree : Agree 2 cs ds) :
    announced ds = announced cs := by
  rcases agree.cases with ⟨rfl, rfl⟩ | ⟨c, cs, ds, rfl, rfl, rest⟩
  · rfl
  rcases rest.cases with ⟨rfl, rfl⟩ | ⟨d, cs, ds, rfl, rfl, -⟩
  · rfl
  unfold announced
  split <;> simp_all

theorem length_take_of_announced {cs : List Char} {base : Nat} (found : announced cs = some base) :
    (cs.take 2).length = 2 := by
  unfold announced at found
  split at found
  · rfl
  · cases found

theorem announced_of_head?_ne {cs : List Char} (other : cs.head? ≠ some '0') :
    announced cs = none := by
  unfold announced
  split
  · exact absurd rfl other
  · rfl

/-- A zero is read whether or not a base follows. -/
theorem length_lt_unsignedNumber (sign : List Char) {cs : List Char}
    (zero : cs.head? = some '0') :
    sign.length < (unsignedNumber sign cs).lexeme.length := by
  obtain ⟨cs, rfl⟩ := List.head?_eq_some_iff.1 zero
  have digit : isDecimalDigit '0' = true := by decide
  rw [unsignedNumber_eq]
  split
  · rename_i base found
    have kept := (radixDigits_extends base (sign ++ List.take 2 ('0' :: cs))
      (List.drop 2 ('0' :: cs))).length_le
    have read : 0 < (List.take 2 ('0' :: cs)).length := by simp
    rw [List.length_append] at kept
    omega
  · have kept := (fraction_extends (sign ++ List.takeWhile isDecimalDigit ('0' :: cs))
      (List.dropWhile isDecimalDigit ('0' :: cs))).length_le
    rw [List.takeWhile_cons_of_pos digit, List.length_append, List.length_cons] at kept
    rw [decimal_eq, List.takeWhile_cons_of_pos digit]
    omega

theorem unsignedNumber_local (sign : List Char) : LocalAfter sign (unsignedNumber sign) := by
  intro cs ds n short agree
  have pos : 0 < n := by
    have kept := (unsignedNumber_extends sign cs).length_le
    omega
  have same : announced ds = announced cs := by
    by_cases zero : cs.head? = some '0'
    · -- the zero is read, so the letter behind it is among what agrees
      have read := length_lt_unsignedNumber sign zero
      exact announced_of_agree (agree.mono (by omega))
    · have other : ds.head? ≠ some '0' := by rwa [agree.head? pos]
      rw [announced_of_head?_ne zero, announced_of_head?_ne other]
  rw [unsignedNumber_eq] at short
  rw [unsignedNumber_eq, unsignedNumber_eq, same]
  cases found : announced cs with
  | none =>
      rw [found] at short
      exact decimal_local sign short agree
  | some base =>
      rw [found] at short
      dsimp only at short
      have two := length_take_of_announced found
      have kept := (radixDigits_extends base (sign ++ cs.take 2) (cs.drop 2)).length_le
      rw [List.length_append] at kept
      have sameTwo : ds.take 2 = cs.take 2 := (agree.mono (by omega)).symm
      rw [sameTwo]
      apply radixDigits_local base _ _ (agree.drop 2)
      rw [List.length_append]
      omega

theorem number_local : Local number := by
  intro cs ds n short agree
  have same : number cs = unsignedNumber ([] ++ oneIf (· == '-') cs)
      (cs.drop (oneIf (· == '-') cs).length) := rfl
  rw [same] at short ⊢
  obtain ⟨sameSign, sameRest⟩ :=
    one_then_local _ unsignedNumber_extends unsignedNumber_local [] agree (by simpa using short)
  rw [← sameRest, ← sameSign]
  rfl

/-! ## Literals between delimiters and comments -/

theorem commentBody_length_pos {cs body : List Char} (closed : commentBody cs = some body) :
    0 < body.length := by
  cases cs with
  | nil => cases closed
  | cons c cs =>
      simp only [commentBody] at closed
      split at closed
      · cases closed
        exact Nat.succ_pos 1
      · obtain ⟨inner, -, rfl⟩ := Option.map_eq_some_iff.1 closed
        exact Nat.succ_pos inner.length

theorem commentBody_of_agree {cs ds body : List Char} (closed : commentBody cs = some body)
    (agree : Agree body.length cs ds) : commentBody ds = some body := by
  induction cs generalizing ds body with
  | nil => cases closed
  | cons c cs ih =>
      simp only [commentBody] at closed
      split at closed
      · rename_i ends
        cases closed
        obtain ⟨ds, rfl, rest⟩ := agree.of_cons
        rw [commentBody, rest.head? Nat.one_pos, if_pos ends]
      · rename_i inside
        obtain ⟨inner, found, rfl⟩ := Option.map_eq_some_iff.1 closed
        obtain ⟨ds, rfl, rest⟩ := agree.of_cons
        rw [commentBody, rest.head? (commentBody_length_pos found), if_neg inside, ih found rest]
        rfl

theorem stringBody_of_agree {quote : Char} {cs ds body : List Char}
    (closed : stringBody quote cs = some body) (agree : Agree body.length cs ds) :
    stringBody quote ds = some body := by
  induction cs generalizing ds body with
  | nil => cases closed
  | cons c cs ih =>
      simp only [stringBody] at closed
      split at closed
      · rename_i ends
        cases closed
        obtain ⟨ds, rfl, -⟩ := agree.of_cons
        rw [stringBody, if_pos ends]
      · rename_i inside
        obtain ⟨inner, found, rfl⟩ := Option.map_eq_some_iff.1 closed
        obtain ⟨ds, rfl, rest⟩ := agree.of_cons
        rw [stringBody, if_neg inside, ih found rest]
        rfl

section TemplateBody

variable {c : Char} {cs : List Char}

theorem templateBody_of_backtick (tick : (c == backtick) = true) :
    templateBody (c :: cs) = some ([c], .backtick) := by
  rw [templateBody.eq_def]
  simp only [tick, if_true]

theorem templateBody_of_opening (tick : ¬ (c == backtick) = true)
    (opens : (c == '$' && cs.head? == some '{') = true) :
    templateBody (c :: cs) = some (['$', '{'], .substitution) := by
  rw [templateBody.eq_def]
  simp only [if_neg tick, if_pos opens]

theorem templateBody_of_escape {escaped : Char} (escape : (c == '\\') = true) :
    templateBody (c :: escaped :: cs) =
      (templateBody cs).map fun (body, stop) => (c :: escaped :: body, stop) := by
  have slash := beq_iff_eq.1 escape
  subst slash
  rw [templateBody.eq_def]
  rfl

theorem templateBody_of_plain (tick : ¬ (c == backtick) = true)
    (opens : ¬ (c == '$' && cs.head? == some '{') = true) (escape : ¬ (c == '\\') = true) :
    templateBody (c :: cs) = (templateBody cs).map fun (body, stop) => (c :: body, stop) := by
  rw [templateBody.eq_def]
  simp only [if_neg tick, if_neg opens, if_neg escape]

end TemplateBody

theorem templateBody_length_pos {cs body : List Char} {stop : TemplateEnd}
    (closed : templateBody cs = some (body, stop)) : 0 < body.length := by
  fun_induction templateBody cs generalizing body stop with
  | case1 => cases closed
  | case2 =>
      cases closed
      exact Nat.succ_pos 0
  | case3 =>
      cases closed
      exact Nat.succ_pos 1
  | case4 => cases closed
  | case5 c _ _ escaped =>
      obtain ⟨⟨inner, ending⟩, -, same⟩ := Option.map_eq_some_iff.1 closed
      cases same
      exact Nat.succ_pos _
  | case6 c =>
      obtain ⟨⟨inner, ending⟩, -, same⟩ := Option.map_eq_some_iff.1 closed
      cases same
      exact Nat.succ_pos _

theorem templateBody_of_agree {cs ds body : List Char} {stop : TemplateEnd}
    (closed : templateBody cs = some (body, stop)) (agree : Agree body.length cs ds) :
    templateBody ds = some (body, stop) := by
  fun_induction templateBody cs generalizing ds body stop with
  | case1 => cases closed
  | case2 c cs tick =>
      cases closed
      obtain ⟨ds, rfl, -⟩ := agree.of_cons
      exact templateBody_of_backtick tick
  | case3 c cs tick opens =>
      cases closed
      have dollar := beq_iff_eq.1 (Bool.and_eq_true_iff.1 opens).1
      subst dollar
      obtain ⟨ds, rfl, rest⟩ := agree.of_cons
      apply templateBody_of_opening tick
      rwa [rest.head? Nat.one_pos]
  | case4 => cases closed
  | case5 c tick escape escaped cs opens ih =>
      obtain ⟨⟨inner, ending⟩, found, same⟩ := Option.map_eq_some_iff.1 closed
      cases same
      obtain ⟨ds, rfl, rest⟩ := agree.of_cons
      obtain ⟨ds, rfl, deeper⟩ := rest.of_cons
      rw [templateBody_of_escape escape, ih found deeper]
      rfl
  | case6 c cs tick opens escape ih =>
      obtain ⟨⟨inner, ending⟩, found, same⟩ := Option.map_eq_some_iff.1 closed
      cases same
      obtain ⟨ds, rfl, rest⟩ := agree.of_cons
      have closes : ¬ (c == '$' && ds.head? == some '{') = true := by
        rwa [rest.head? (templateBody_length_pos found)]
      rw [templateBody_of_plain tick closes escape, ih found rest]
      rfl

/-- One character behind what is read decides where a regular expression stops. -/
theorem regexBody_of_agree {inBrackets : Bool} {cs ds : List Char}
    (agree : Agree ((regexBody inBrackets cs).1.length + 1) cs ds) :
    regexBody inBrackets ds = regexBody inBrackets cs := by
  fun_induction regexBody inBrackets cs generalizing ds with
  | case1 inBrackets =>
      rw [agree.eq_of_length_lt (Nat.lt_succ_self _)]
      rfl
  | case2 inBrackets c cs ends =>
      obtain ⟨ds, rfl, -⟩ := agree.of_cons
      rw [regexBody.eq_def]
      simp only [if_pos ends]
  | case3 inBrackets c cs ends closes =>
      obtain ⟨ds, rfl, -⟩ := agree.of_cons
      rw [regexBody.eq_def]
      simp only [if_neg ends, if_pos closes]
  | case4 inBrackets c ends closes escape =>
      rw [agree.eq_of_length_lt (Nat.lt_succ_self _), regexBody.eq_def]
      simp only [if_neg ends, if_neg closes, if_pos escape]
  | case5 inBrackets c ends closes escape escaped cs stops =>
      obtain ⟨ds, rfl, rest⟩ := agree.of_cons
      obtain ⟨ds, rfl, -⟩ := rest.of_cons
      rw [regexBody.eq_def]
      simp only [if_neg ends, if_neg closes, if_pos escape, if_pos stops]
  | case6 inBrackets c ends closes escape escaped cs goes body stop found ih =>
      rw [found] at ih
      obtain ⟨ds, rfl, rest⟩ := agree.of_cons
      obtain ⟨ds, rfl, deeper⟩ := rest.of_cons
      rw [regexBody.eq_def]
      simp only [if_neg ends, if_neg closes, if_pos escape, if_neg goes, ih deeper]
  | case7 inBrackets c cs ends closes escape forbidden =>
      obtain ⟨ds, rfl, -⟩ := agree.of_cons
      rw [regexBody.eq_def]
      simp only [if_neg ends, if_neg closes, if_neg escape, if_pos forbidden]
  | case8 inBrackets c cs ends closes escape allowed body stop found ih =>
      rw [found] at ih
      obtain ⟨ds, rfl, rest⟩ := agree.of_cons
      rw [regexBody.eq_def]
      simp only [if_neg ends, if_neg closes, if_neg escape, if_neg allowed, ih rest]

/-! ## Every production -/

theorem takeWhile_local (p : Char → Bool) (outcome : Except LexError TokenKind) :
    Local fun cs => ⟨cs.takeWhile p, outcome⟩ := by
  intro cs ds n short agree
  dsimp only at short ⊢
  rw [agree.takeWhile p short]

theorem take_one_local (outcome : Except LexError TokenKind) :
    Local fun cs => ⟨cs.take 1, outcome⟩ := by
  intro cs ds n short agree
  dsimp only
  rw [agree.take_one (by omega)]

theorem length_take_of_drop_ne_nil {k : Nat} {cs : List Char} (more : cs.drop k ≠ []) :
    (cs.take k).length = k := by
  have left := List.length_pos_iff.2 more
  rw [List.length_drop] at left
  rw [List.length_take, Nat.min_eq_left (by omega)]

theorem multiLineComment_local : Local multiLineComment := by
  intro cs ds n short agree
  unfold multiLineComment at short ⊢
  cases closed : commentBody (cs.drop 2) with
  | none =>
      rw [closed] at short
      rw [agree.eq_of_length_lt short, closed]
  | some body =>
      have opened : (cs.take 2).length = 2 :=
        length_take_of_drop_ne_nil fun empty => by rw [empty] at closed; cases closed
      rw [closed] at short
      simp only [List.length_append, opened] at short
      have sameBody := commentBody_of_agree closed ((agree.drop 2).mono (by omega))
      have sameOpening : ds.take 2 = cs.take 2 := (agree.mono (by omega)).symm
      rw [sameBody, sameOpening]

/-- A production that always reads the first character is local if it is so behind
it. -/
theorem local_of_cons {f : List Char → Piece}
    (behind : ∀ {c : Char} {cs ds : List Char} {n : Nat}, (f (c :: cs)).lexeme.length ≤ n →
      Agree n cs ds → f (c :: ds) = f (c :: cs)) : Local f := by
  intro cs ds n short agree
  obtain ⟨m, rfl⟩ : ∃ m, n = m + 1 := ⟨n - 1, by omega⟩
  rcases agree.cases with ⟨rfl, rfl⟩ | ⟨c, cs, ds, rfl, rfl, rest⟩
  · rfl
  · exact behind (Nat.le_of_lt_succ short) rest

theorem stringLiteral_local : Local stringLiteral := by
  apply local_of_cons
  intro quote cs ds n short agree
  simp only [stringLiteral] at short ⊢
  cases closed : stringBody quote cs with
  | none =>
      simp only [closed, List.length_cons] at short
      rw [agree.eq_of_length_lt short, closed]
  | some body =>
      simp only [closed, List.length_cons] at short
      rw [stringBody_of_agree closed (agree.mono (by omega))]

theorem templatePiece_local (closed opened : TokenKind) (error : LexError) :
    Local (templatePiece closed opened error) := by
  apply local_of_cons
  intro c cs ds n short agree
  simp only [templatePiece, List.drop_succ_cons, List.drop_zero, List.take_succ_cons,
    List.take_zero] at short ⊢
  cases found : templateBody cs with
  | none =>
      simp only [found, List.length_cons] at short
      rw [agree.eq_of_length_lt short, found]
  | some result =>
      obtain ⟨body, stop⟩ := result
      have bound : body.length < n := by
        rw [found] at short
        cases stop <;> exact short
      rw [templateBody_of_agree found (agree.mono (Nat.le_of_lt bound))]
      cases stop <;> rfl

theorem regexBody_length_lt_regex (c : Char) (cs : List Char) :
    (regexBody false cs).1.length < (regex (c :: cs)).lexeme.length := by
  simp only [regex, List.drop_succ_cons, List.drop_zero, List.take_succ_cons, List.take_zero]
  split <;> simp only [List.length_append, List.length_cons, List.length_nil] <;> omega

theorem regex_local : Local regex := by
  apply local_of_cons
  intro c cs ds n short agree
  have bound := regexBody_length_lt_regex c cs
  have sameBody := regexBody_of_agree (agree.mono (Nat.le_trans bound short))
  simp only [regex, List.drop_succ_cons, List.drop_zero, List.take_succ_cons, List.take_zero,
    List.cons_append, List.nil_append, List.length_cons, sameBody] at short ⊢
  cases stop : (regexBody false cs).2 with
  | closed =>
      -- the flags end where the texts still agree
      simp only [stop, List.length_cons, List.length_append] at short
      rw [(agree.drop _).takeWhile isIdContinue (by omega)]
  | lineTerminator => rfl
  | forbidden c => rfl
  | endOfInput => rfl

theorem word_local (reserved : ReservedWords) : Local (word reserved) := by
  apply local_of_cons
  intro c cs ds n short agree
  simp only [word, List.drop_succ_cons, List.drop_zero, List.take_succ_cons, List.take_zero]
    at short ⊢
  rw [agree.takeWhile isIdContinue short]

theorem divPunctuator_local : Local divPunctuator := by
  apply local_of_cons
  intro c cs ds n short agree
  simp only [divPunctuator, List.drop_succ_cons, List.drop_zero, List.take_succ_cons,
    List.take_zero] at short ⊢
  rw [agree.oneIf _ (Nat.lt_of_lt_of_le (Nat.succ_pos _) short)]

end Piece

/-- **Every production is local.** -/
theorem Production.run_local (options : Options) (production : Production) :
    Piece.Local (production.run options) := by
  cases production with
  | endOfInput => exact fun _ _ => rfl
  | whiteSpace => exact Piece.takeWhile_local _ _
  | lineTerminator => exact Piece.take_one_local _
  | singleLineComment => exact Piece.takeWhile_local _ _
  | multiLineComment => exact Piece.multiLineComment_local
  | number => exact Piece.number_local
  | punctuator text => exact fun _ _ => rfl
  | word => exact Piece.word_local _
  | template => exact Piece.templatePiece_local _ _ _
  | string => exact Piece.stringLiteral_local
  | templateContinuation => exact Piece.templatePiece_local _ _ _
  | division => exact Piece.divPunctuator_local
  | rightBrace => exact Piece.take_one_local _
  | regex => exact Piece.regex_local
  | unexpected => exact Piece.take_one_local _

/-! ## The choice of a production -/

theorem punctuators_length_le : ∀ text ∈ punctuators, text.toList.length ≤ 4 := by decide

/-- Only the longest punctuator has four characters. -/
theorem eq_of_mem_punctuators : ∀ text ∈ punctuators, 3 < text.toList.length → text = ">>>=" := by
  decide

theorem punctuator?_of_three (rest : List Char) :
    ∃ text, punctuator? ('>' :: '>' :: '>' :: rest) = some text ∧ 3 ≤ text.toList.length := by
  cases rest with
  | nil => exact ⟨">>>", by decide, by decide⟩
  | cons c rest =>
      by_cases equals : c = '='
      · subst equals
        exact ⟨">>>=", by simp [punctuator?, punctuators], by decide⟩
      · exact ⟨">>>", by simp [punctuator?, punctuators, Ne.symm equals], by decide⟩

/-- Two characters behind a punctuator, and at least three, decide that it is the
longest. -/
theorem punctuator?_of_agree {cs ds : List Char} {n : Nat} (agree : Agree n cs ds) (three : 3 ≤ n)
    (inside : ∀ text, punctuator? cs = some text → text.toList.length + 2 ≤ n) :
    punctuator? ds = punctuator? cs := by
  have tested : ∀ text ∈ punctuators, text.toList.isPrefixOf ds = text.toList.isPrefixOf cs := by
    intro text listed
    by_cases fits : text.toList.length ≤ n
    · exact agree.isPrefixOf fits
    -- what is left is `>>>=`, with only three characters to agree
    have longest := eq_of_mem_punctuators text listed (by omega)
    subst longest
    have failsWithout : ∀ es : List Char, ">>>".toList.isPrefixOf es = false →
        ">>>=".toList.isPrefixOf es = false := by
      intro es fails
      rw [← Bool.not_eq_true, List.isPrefixOf_iff_prefix] at fails ⊢
      exact fun starts => fails ((List.prefix_append ">>>".toList "=".toList).trans starts)
    have sameStart : ">>>".toList.isPrefixOf ds = ">>>".toList.isPrefixOf cs :=
      agree.isPrefixOf three
    cases starts : ">>>".toList.isPrefixOf cs with
    | false => rw [failsWithout cs starts, failsWithout ds (sameStart.trans starts)]
    | true =>
        obtain ⟨rest, rfl⟩ := List.isPrefixOf_iff_prefix.1 starts
        obtain ⟨text, found, long⟩ := punctuator?_of_three rest
        have bound := inside text found
        exact agree.isPrefixOf (Nat.le_trans (punctuators_length_le _ listed) (by omega))
  unfold punctuator?
  rw [← List.head?_filter, ← List.head?_filter, List.filter_congr tested]

theorem startsUnsigned_of_agree {cs ds : List Char} (agree : Agree 2 cs ds) :
    Piece.startsUnsigned ds = Piece.startsUnsigned cs := by
  rcases agree.cases with ⟨rfl, rfl⟩ | ⟨c, cs, ds, rfl, rfl, rest⟩
  · rfl
  · simp only [Piece.startsUnsigned, rest.head? Nat.one_pos]

/-- A sign, a point and a digit: three characters decide whether a number starts. -/
theorem startsNumber_of_agree (signed : Bool) {cs ds : List Char} (agree : Agree 3 cs ds) :
    Piece.startsNumber signed ds = Piece.startsNumber signed cs := by
  have whole := startsUnsigned_of_agree (agree.mono (Nat.le_succ 2))
  rcases agree.cases with ⟨rfl, rfl⟩ | ⟨c, cs, ds, rfl, rfl, rest⟩
  · rfl
  · simp only [Piece.startsNumber, whole, startsUnsigned_of_agree rest]

/-- The choice of a production looks two characters past its lexeme. -/
theorem Production.choose_of_agree (options : Options) (goal : Goal) {cs ds : List Char} {n : Nat}
    (agree : Agree n cs ds) (inside : (Piece.scan options goal cs).lexeme.length + 2 ≤ n) :
    choose options goal ds = choose options goal cs := by
  by_cases unread : cs = []
  · subst unread
    rw [agree.eq_of_length_lt (by simp only [List.length_nil]; omega)]
  have read := List.length_pos_iff.2 (Piece.scan_takes options goal unread).nonempty
  have three : 3 ≤ n := by omega
  have number := startsNumber_of_agree options.signedNumericLiterals (agree.mono three)
  obtain ⟨m, rfl⟩ : ∃ m, n = m + 1 := ⟨n - 1, by omega⟩
  rcases agree.cases with ⟨empty, -⟩ | ⟨c, cs, ds, rfl, rfl, rest⟩
  · exact absurd empty unread
  have second : ds.head? = cs.head? := rest.head? (show 0 < m by omega)
  have applies := choose_applies options goal (c :: cs)
  unfold Piece.scan at inside
  generalize choose options goal (c :: cs) = production at applies inside ⊢
  apply Applies.choose_eq
  cases applies with
  | whiteSpace white => exact .whiteSpace white
  | lineTerminator terminator => exact .lineTerminator terminator
  | singleLineComment =>
      obtain ⟨ds, rfl⟩ := List.head?_eq_some_iff.1 second
      exact .singleLineComment
  | multiLineComment =>
      obtain ⟨ds, rfl⟩ := List.head?_eq_some_iff.1 second
      exact .multiLineComment
  | number starts => exact .number (number.trans starts)
  | punctuator noNumber found =>
      have sameText : punctuator? (c :: ds) = punctuator? (c :: cs) := by
        apply punctuator?_of_agree agree three
        intro text same
        cases found.symm.trans same
        exact inside
      exact .punctuator (number.trans noNumber) (sameText.trans found)
  | word starts => exact .word starts
  | template => exact .template
  | string either => exact .string either
  | templateContinuation resumes => exact .templateContinuation resumes
  | division divides notLine notBlock =>
      exact .division divides (second ▸ notLine) (second ▸ notBlock)
  | rightBrace closes => exact .rightBrace closes
  | regex opens notLine notBlock => exact .regex opens (second ▸ notLine) (second ▸ notBlock)
  | unexpected starts => exact .unexpected starts

/-- **Two characters of look-ahead.** Texts that agree on a lexeme and on two
characters more give the same piece. -/
theorem Piece.scan_eq_of_agree (options : Options) (goal : Goal) {cs ds : List Char} {n : Nat}
    (agree : Agree n cs ds) (inside : (scan options goal cs).lexeme.length + 2 ≤ n) :
    scan options goal ds = scan options goal cs := by
  have chosen := Production.choose_of_agree options goal agree inside
  unfold scan at inside ⊢
  rw [chosen]
  exact Production.run_local options _ (by omega) agree

end GoalLexer
