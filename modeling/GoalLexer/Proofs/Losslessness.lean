import GoalLexer.Proofs.Session

/-!
# Losslessness

With trivia captured, every pull takes exactly the text between the place before
it and the place after it (`Reader.next_of_captures`). So the lexemes of any run
of pulls, error tokens included, rebuild the source up to the place reached
(`Lexer.pulls_rebuild_source`), whatever the goals.
-/

set_option autoImplicit false

namespace GoalLexer

/-- The lexemes of tokens, one behind the other. -/
def lexemes (tokens : List Token) : List Char := tokens.flatMap (·.lexeme.toList)

theorem lexemes_cons (token : Token) (tokens : List Token) :
    lexemes (token :: tokens) = token.lexeme.toList ++ lexemes tokens := by
  simp [lexemes]

theorem lexemes_eq_join (tokens : List Token) :
    lexemes tokens = (String.join (tokens.map (·.lexeme))).toList := by
  simp [lexemes, List.flatMap_map]

/-- The tokens cover the text from one place to another without gap or overlap,
and an end of the input among them is the end of the text. -/
structure Covers (p : Place) (tokens : List Token) (q : Place) : Prop where
  text : p.rest = lexemes tokens ++ q.rest
  size : q.offset = p.offset + Utf8.length (lexemes tokens)
  starts : ∀ (i : Nat) (token : Token), tokens[i]? = some token →
    token.position.offset = p.offset + Utf8.length (lexemes (tokens.take i))
  ends : ∀ token ∈ tokens, token.isEndOfInput = true → q.rest = []

theorem Covers.nil (p : Place) : Covers p [] p where
  text := rfl
  size := rfl
  starts := by intro i token found; cases found
  ends := by intro token member; cases member

/-- The token at a place, before tokens that go on behind it. -/
theorem Covers.cons {options : Options} {goal : Goal} {name : String} {p q : Place}
    {tokens : List Token} (rest : Covers (p.past options goal) tokens q) :
    Covers p (p.token options goal name :: tokens) q where
  text := by
    rw [lexemes_cons, List.append_assoc, ← rest.text]
    exact p.token_append_past options goal name
  size := by
    rw [rest.size, p.past_offset options goal name, lexemes_cons, Utf8.length_append,
      Utf8.length_toList, Nat.add_assoc]
  starts := by
    intro i token found
    cases i with
    | zero =>
        cases found
        rfl
    | succ i =>
        rw [rest.starts i token found, p.past_offset options goal name, List.take_succ_cons,
          lexemes_cons, Utf8.length_append, Utf8.length_toList, Nat.add_assoc]
  ends := by
    intro token member ended
    rcases List.mem_cons.1 member with rfl | later
    · have finished := (p.isEndOfInput_iff options goal name).1 ended
      have whole := rest.text
      rw [Place.past, Place.skip_rest, finished, List.drop_nil] at whole
      exact (List.append_eq_nil_iff.1 whole.symm).2
    · exact rest.ends token later ended

namespace Reader

/-- **Every run of pulls covers the text** between the places before and after it. -/
theorem pulls_covers {r : Reader} (captures : r.options.captureTrivia = true)
    (goals : List Goal) : Covers r.place (r.pulls goals).1 (r.pulls goals).2.place := by
  induction goals generalizing r with
  | nil => exact Covers.nil r.place
  | cons goal goals ih =>
      have rest := ih (r := r.after goal) captures
      have here := next_of_captures captures goal
      rw [after_place, here] at rest
      simp only [pulls, token, here]
      exact Covers.cons rest

@[simp] theorem length_pulls (r : Reader) (goals : List Goal) :
    (r.pulls goals).1.length = goals.length := by
  induction goals generalizing r with
  | nil => rfl
  | cons goal goals ih => simp [pulls, ih]

end Reader

namespace Lexer

/-- **Losslessness.** Whatever the goals, the lexemes pulled from a source rebuild
it up to the place reached, every token starts where the lexemes before it end,
and all of the source is rebuilt when the end of the input is returned. -/
theorem pulls_rebuild_source (name source : String) (options : Options) (goals : List Goal)
    (captures : options.captureTrivia = true) (short : source.utf8ByteSize < counterBound - 1) :
    ∃ tokens lx, (create name source options).pulls goals = .ok (tokens, lx) ∧
      tokens.length = goals.length ∧
      Utf8.slice source.toList 0 lx.place.offset =
        some (String.join (tokens.map (·.lexeme))).toList ∧
      (∀ (i : Nat) (token : Token), tokens[i]? = some token →
        token.position.offset = (String.join ((tokens.take i).map (·.lexeme))).utf8ByteSize) ∧
      (∀ token ∈ tokens, token.isEndOfInput = true →
        String.join (tokens.map (·.lexeme)) = source) := by
  obtain ⟨last, pulled, -, moved⟩ := (create_coherent name options short).pulls goals
  have covers := Reader.pulls_covers (r := (create name source options).reader) captures goals
  have length := Reader.length_pulls (create name source options).reader goals
  rw [← moved, reader_place, reader_place] at covers
  generalize (Reader.pulls goals (create name source options).reader).1 = tokens
    at pulled covers length
  have text : source.toList = lexemes tokens ++ last.place.rest := covers.text
  have size : last.place.offset = Utf8.length (lexemes tokens) :=
    covers.size.trans (Nat.zero_add _)
  refine ⟨tokens, last, pulled, length, ?_, ?_, ?_⟩
  · have sliced := Utf8.slice_append [] (lexemes tokens) last.place.rest
    rw [List.nil_append, List.nil_append, ← text, ← size, lexemes_eq_join] at sliced
    exact sliced
  · intro i token found
    rw [covers.starts i token found, lexemes_eq_join, Utf8.length_toList]
    exact Nat.zero_add _
  · intro token member ended
    rw [covers.ends token member ended, List.append_nil, lexemes_eq_join] at text
    exact (String.toList_inj.1 text).symm

/-- A regular expression that a line feed cuts off, a character that starts no
token, and a comment that is not closed: three error tokens, and nothing is
lost. -/
theorem pulls_rebuild_malformed :
    ({} : Options).captureTrivia = true ∧ "/[é\n#/*".utf8ByteSize < counterBound - 1 ∧
      ∃ tokens lx, (create "a.js" "/[é\n#/*" {}).pulls [.regExp, .div, .regExp, .div, .div] =
          .ok (tokens, lx) ∧
        tokens.length = 5 ∧
        Utf8.slice "/[é\n#/*".toList 0 lx.place.offset =
          some (String.join (tokens.map (·.lexeme))).toList ∧
        (∀ (i : Nat) (token : Token), tokens[i]? = some token →
          token.position.offset = (String.join ((tokens.take i).map (·.lexeme))).utf8ByteSize) ∧
        (∀ token ∈ tokens, token.isEndOfInput = true →
          String.join (tokens.map (·.lexeme)) = "/[é\n#/*") :=
  ⟨rfl, by decide, pulls_rebuild_source "a.js" "/[é\n#/*" {} _ rfl (by decide)⟩

end Lexer

end GoalLexer
