import GoalLexer.Proofs.Locality
import GoalLexer.Proofs.Session

/-!
# Prefix stability

Two sources that begin alike give the same tokens for as long as they are alike:
no token depends on more than two characters behind its end.

The comparison is between two runs. Two places are `Alike` up to a mark when their
counters are the same and so are the characters up to two behind the mark, which
is given by the number of characters that are left there. A reader that stays
before the mark keeps the places alike (`Reader.after_of_alike`), and the mark
does not move, so a whole run of pulls is compared by induction
(`Reader.pulls_of_alike`).
-/

set_option autoImplicit false

namespace GoalLexer

/-- The same token in a source of another name. -/
def Token.inSource (name : String) (t : Token) : Token :=
  { t with position := { t.position with source := name } }

namespace Place

/-- The same counters, and the same text up to two characters behind the point
where `p` has only `left` characters left. -/
structure Alike (left : Nat) (p q : Place) : Prop where
  offset : q.offset = p.offset
  line : q.line = p.line
  column : q.column = p.column
  agree : Agree (p.rest.length - left + 2) p.rest q.rest

namespace Alike

variable {left : Nat} {p q : Place}

/-- Whether a character ends a line is decided by the one behind it. -/
theorem step (alike : Alike left p q) (before : left < p.rest.length) :
    Alike left p.step q.step := by
  obtain ⟨offset, line, column, agree⟩ := alike
  obtain ⟨m, distance⟩ : ∃ m, p.rest.length - left = m + 1 := ⟨p.rest.length - left - 1, by omega⟩
  rw [distance] at agree
  rcases agree.cases with ⟨empty, -⟩ | ⟨c, cs, ds, here, there, rest⟩
  · rw [empty] at before
    cases before
  have sameEnd : endsLine c ds = endsLine c cs := by
    unfold endsLine
    rw [rest.head? (Nat.succ_pos _)]
  have nearer : cs.length - left + 2 = m + 2 := by
    rw [here, List.length_cons] at distance before
    omega
  refine ⟨?_, ?_, ?_, ?_⟩
  · simp [here, there, offset]
  · simp only [Place.step, here, there, sameEnd]
    split
    · exact congrArg (· + 1) line
    · exact line
  · simp only [Place.step, here, there, sameEnd]
    split
    · rfl
    · exact congrArg (· + 1) column
  · simp only [step_rest, here, there, List.drop_succ_cons, List.drop_zero, nearer]
    exact rest

theorem skip (alike : Alike left p q) {n : Nat} (before : left + n ≤ p.rest.length) :
    Alike left (p.skip n) (q.skip n) := by
  induction n generalizing p q with
  | zero => exact alike
  | succ n ih =>
      rw [skip_succ, skip_succ]
      apply ih (alike.step (by omega))
      rw [step_rest, List.length_drop]
      omega

variable {options : Options} {goal : Goal}

/-- Places alike up to the end of a token have the same piece. -/
theorem piece (alike : Alike left p q) (before : left ≤ (p.past options goal).rest.length) :
    q.piece options goal = p.piece options goal := by
  have whole := p.past_rest_length options goal
  apply Piece.scan_eq_of_agree options goal alike.agree
  change (p.piece options goal).lexeme.length + 2 ≤ _
  omega

theorem past (alike : Alike left p q) (before : left ≤ (p.past options goal).rest.length) :
    Alike left (p.past options goal) (q.past options goal) := by
  have whole := p.past_rest_length options goal
  unfold Place.past
  rw [alike.piece before]
  exact alike.skip (by omega)

theorem isSkipped (alike : Alike left p q) (before : left ≤ (p.past options goal).rest.length) :
    q.isSkipped options goal = p.isSkipped options goal := by
  unfold Place.isSkipped
  rw [alike.piece before]

theorem token (alike : Alike left p q) (before : left ≤ (p.past options goal).rest.length)
    (name other : String) :
    q.token options goal other = (p.token options goal name).inSource other := by
  unfold Place.token Token.inSource
  rw [alike.piece before, alike.offset, alike.line, alike.column]

end Alike

variable (options : Options) (goal : Goal)

/-- The same trivia are passed over on the way to the same token. -/
theorem Alike.wanted {left : Nat} {p q : Place} (alike : Alike left p q)
    (before : left ≤ ((p.wanted options goal).past options goal).rest.length) :
    Alike left (p.wanted options goal) (q.wanted options goal) := by
  induction p using wanted_induction options goal generalizing q with
  | kept p kept =>
      rw [wanted_of_not_isSkipped options goal kept] at before ⊢
      have keptToo : q.isSkipped options goal = false := (alike.isSkipped before).trans kept
      rw [wanted_of_not_isSkipped options goal keptToo]
      exact alike
  | skipped p skipped ih =>
      rw [wanted_of_isSkipped options goal skipped] at before ⊢
      have beforePast : left ≤ (p.past options goal).rest.length := by
        have reached := (p.past options goal).wanted_rest_length_le options goal
        have whole := ((p.past options goal).wanted options goal).past_rest_length options goal
        omega
      have skippedToo : q.isSkipped options goal = true :=
        (alike.isSkipped beforePast).trans skipped
      rw [wanted_of_isSkipped options goal skippedToo]
      exact ih (alike.past beforePast) before

end Place

namespace Reader

/-- Two readers with the same options, at places that are alike up to a mark. -/
structure Alike (left : Nat) (r s : Reader) : Prop where
  options : s.options = r.options
  place : Place.Alike left r.place s.place

/-- **One pull** before the mark gives the same token, and keeps the readers
alike. -/
theorem after_of_alike {left : Nat} {r s : Reader} (alike : Alike left r s) {goal : Goal}
    (before : left ≤ (r.after goal).place.rest.length) :
    s.token goal = (r.token goal).inSource s.name ∧
      Alike left (r.after goal) (s.after goal) := by
  obtain ⟨options, place⟩ := alike
  rw [after_place] at before
  have next : Place.Alike left (r.next goal) (s.next goal) := by
    unfold Reader.next
    rw [options]
    exact place.wanted r.options goal before
  refine ⟨?_, options, ?_⟩
  · unfold Reader.token
    rw [options]
    exact next.token before r.name s.name
  · rw [after_place, after_place, options]
    exact next.past before

theorem after_rest_length_le (r : Reader) (goal : Goal) :
    (r.after goal).place.rest.length ≤ r.place.rest.length := by
  have reached := r.place.wanted_rest_length_le r.options goal
  have whole := (r.next goal).past_rest_length r.options goal
  rw [after_place]
  unfold Reader.next at whole ⊢
  omega

theorem pulls_rest_length_le (r : Reader) (goals : List Goal) :
    (r.pulls goals).2.place.rest.length ≤ r.place.rest.length := by
  induction goals generalizing r with
  | nil => exact Nat.le_refl _
  | cons goal goals ih => exact Nat.le_trans (ih (r.after goal)) (r.after_rest_length_le goal)

/-- **A run of pulls** that ends before the mark gives the same tokens. -/
theorem pulls_of_alike {left : Nat} {r s : Reader} (alike : Alike left r s) {goals : List Goal}
    (before : left ≤ (r.pulls goals).2.place.rest.length) :
    (s.pulls goals).1 = (r.pulls goals).1.map (Token.inSource s.name) := by
  induction goals generalizing r s with
  | nil => rfl
  | cons goal goals ih =>
      have beforeNext : left ≤ (r.after goal).place.rest.length :=
        Nat.le_trans before ((r.after goal).pulls_rest_length_le goals)
      obtain ⟨sameToken, alikeNext⟩ := after_of_alike alike beforeNext
      have sameTokens := ih alikeNext before
      simp only [pulls, List.map_cons, sameToken, sameTokens]
      rfl

theorem pulls_take (r : Reader) (goals : List Goal) (k : Nat) :
    (r.pulls (goals.take k)).1 = (r.pulls goals).1.take k := by
  induction goals generalizing r k with
  | nil => simp [pulls]
  | cons goal goals ih =>
      cases k with
      | zero => rfl
      | succ k => simp [pulls, ih]

/-- A token pulled before the mark is pulled from the other reader too. -/
theorem getElem?_pulls_of_alike {left : Nat} {r s : Reader} (alike : Alike left r s)
    {goals : List Goal} {i : Nat} {token : Token} (pulled : (r.pulls goals).1[i]? = some token)
    (before : left ≤ (r.pulls (goals.take (i + 1))).2.place.rest.length) :
    (s.pulls goals).1[i]? = some (token.inSource s.name) := by
  have same := pulls_of_alike alike before
  rw [pulls_take, pulls_take] at same
  calc (s.pulls goals).1[i]?
      = ((s.pulls goals).1.take (i + 1))[i]? := (List.getElem?_take_of_lt (Nat.lt_succ_self i)).symm
    _ = (((r.pulls goals).1.take (i + 1))[i]?).map (Token.inSource s.name) := by
        rw [same, List.getElem?_map]
    _ = some (token.inSource s.name) := by
        rw [List.getElem?_take_of_lt (Nat.lt_succ_self i), pulled]
        rfl

/-- A token ends where the reader stands after pulling it. -/
theorem pulls_take_offset {r : Reader} {goals : List Goal} {i : Nat} {token : Token}
    (pulled : (r.pulls goals).1[i]? = some token) :
    (r.pulls (goals.take (i + 1))).2.place.offset =
      token.position.offset + token.lexeme.utf8ByteSize := by
  induction goals generalizing r i with
  | nil => cases pulled
  | cons goal goals ih =>
      cases i with
      | zero =>
          cases pulled
          exact (r.next goal).past_offset r.options goal r.name
      | succ i => exact ih pulled

end Reader

namespace Lexer

/-- **Prefix stability.** Two sources have the same first `n` characters. A token
of the first that ends two characters before that, be it well-formed or not, is
also the token of the second: the same kind, lexeme, offset, line, column and
error, whatever the goals. -/
theorem pulls_prefix_stable (name other source continued : String) (options : Options)
    (goals : List Goal) (n : Nat) (short : source.utf8ByteSize < counterBound - 1)
    (otherShort : continued.utf8ByteSize < counterBound - 1)
    (same : source.toList.take n = continued.toList.take n) :
    ∃ tokens lx otherTokens otherLx,
      (create name source options).pulls goals = .ok (tokens, lx) ∧
      (create other continued options).pulls goals = .ok (otherTokens, otherLx) ∧
      ∀ (i e : Nat) (token : Token), tokens[i]? = some token →
        token.position.offset + token.lexeme.utf8ByteSize = Utf8.length (source.toList.take e) →
        e + 2 ≤ n → otherTokens[i]? = some (token.inSource other) := by
  have coherent := create_coherent name options short
  obtain ⟨lx, pulled, -, -⟩ := coherent.pulls goals
  obtain ⟨otherLx, otherPulled, -, -⟩ := (create_coherent other options otherShort).pulls goals
  refine ⟨_, lx, _, otherLx, pulled, otherPulled, ?_⟩
  intro i e token found ends inside
  obtain ⟨read, text, size⟩ := (coherent.sound.pulls (goals.take (i + 1))).split
  have readExactly : read = source.toList.take e := by
    apply Utf8.eq_of_length_eq (text.symm.trans (List.take_append_drop e _).symm)
    rw [← size, Reader.pulls_take_offset found]
    exact ends
  have few : read.length ≤ e := by
    rw [readExactly]
    exact List.length_take_le e _
  have sizes : source.toList.length = _ := (congrArg List.length text).trans List.length_append
  -- the mark is where the token ends
  have alike : Reader.Alike
      ((create name source options).reader.pulls (goals.take (i + 1))).2.place.rest.length
      (create name source options).reader (create other continued options).reader := by
    refine ⟨rfl, rfl, rfl, rfl, Agree.mono same ?_⟩
    change source.toList.length - _ + 2 ≤ n
    omega
  exact Reader.getElem?_pulls_of_alike alike found (Nat.le_refl _)

/-- The number without digits and the semicolon do not change when the two points
behind them become three. -/
theorem pulls_prefix_stable_points :
    "0x;..a".utf8ByteSize < counterBound - 1 ∧ "0x;...".utf8ByteSize < counterBound - 1 ∧
      "0x;..a".toList.take 5 = "0x;...".toList.take 5 ∧
      ∃ tokens lx, (create "b.js" "0x;..." {}).pulls [.div, .regExp, .div] = .ok (tokens, lx) ∧
        tokens[0]? = some ⟨.error, "0x", ⟨"b.js", 0, 1, 0⟩, some (.badNumber "0x")⟩ ∧
        tokens[1]? = some ⟨.punctuator, ";", ⟨"b.js", 2, 1, 2⟩, none⟩ := by
  obtain ⟨tokens, lx, otherTokens, otherLx, pulled, otherPulled, stable⟩ :=
    pulls_prefix_stable "a.js" "b.js" "0x;..a" "0x;..." {} [.div, .regExp, .div] 5
      (by decide) (by decide) (by decide)
  obtain ⟨_, _, run, first, second⟩ :
      ∃ tokens lx, (create "a.js" "0x;..a" {}).pulls [.div, .regExp, .div] = .ok (tokens, lx) ∧
        tokens[0]? = some ⟨.error, "0x", ⟨"a.js", 0, 1, 0⟩, some (.badNumber "0x")⟩ ∧
        tokens[1]? = some ⟨.punctuator, ";", ⟨"a.js", 2, 1, 2⟩, none⟩ := ⟨_, _, rfl, rfl, rfl⟩
  rw [run] at pulled
  cases pulled
  exact ⟨by decide, by decide, by decide, otherTokens, otherLx, otherPulled,
    stable 0 2 _ first (by decide) (by decide), stable 1 3 _ second (by decide) (by decide)⟩

/-- One character behind the end is not enough: the third one decides about the
points. -/
example :
    ((create "a.js" "..a" {}).pulls [.div]).toOption.map (·.1.map (·.lexeme)) = some ["."] ∧
      ((create "a.js" "..." {}).pulls [.div]).toOption.map (·.1.map (·.lexeme)) =
        some ["..."] := by
  decide

end Lexer

end GoalLexer
