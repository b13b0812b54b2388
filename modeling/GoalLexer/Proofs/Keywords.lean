import GoalLexer.Proofs.Names
import GoalLexer.Proofs.Pulled
import GoalLexer.Proofs.Repetition

/-!
# Reserved words are found by longest match

A lexer reads a name to its end and looks it up as a whole. One may as well try the
reserved words on the unread text, the longest first, and take the first that stands
there and does not go on as a name: `ReservedWords.probe`.

Every reserved word is a name, so a reserved word that stands first and is not continued
is the whole name (`ReservedWords.StandsFirst.eq_name`), and the two ways agree:
`ReservedWords.probe_eq`. `Lexer.pulls_longest_keywords` is the statement for lexers.
-/

set_option autoImplicit false

namespace GoalLexer

namespace ReservedWords

/-- The text starts with the word, and what follows does not continue a name. -/
def StandsFirst (word : String) (cs : List Char) : Prop :=
  word.toList <+: cs ∧ (cs.drop word.toList.length).head?.any isIdContinue = false

instance (word : String) (cs : List Char) : Decidable (StandsFirst word cs) :=
  inferInstanceAs (Decidable (_ ∧ _))

/-- The reserved word that stands first in a text, where the longest are tried first. -/
def probe (r : ReservedWords) (cs : List Char) : Option String :=
  r.ordered.find? (StandsFirst · cs)

/-- A name stands first in the text from which it is read. -/
theorem standsFirst_name (c : Char) (cs : List Char) :
    StandsFirst (String.ofList (c :: cs.takeWhile isIdContinue)) (c :: cs) := by
  rw [StandsFirst, String.toList_ofList]
  refine ⟨List.cons_prefix_cons.2 ⟨rfl, List.takeWhile_prefix isIdContinue⟩, ?_⟩
  rw [List.length_cons, List.drop_succ_cons, drop_length_takeWhile]
  exact any_head?_dropWhile isIdContinue cs

/-- **A reserved word that stands first** is the whole name. -/
theorem StandsFirst.eq_name {r : ReservedWords} {word : String} {c : Char} {cs : List Char}
    (stands : StandsFirst word (c :: cs)) (listed : word ∈ r.words) :
    word = String.ofList (c :: cs.takeWhile isIdContinue) := by
  obtain ⟨name, chars⟩ := exists_word_of_mem_words listed
  obtain ⟨⟨rest, text⟩, stops⟩ := stands
  rw [← text, List.drop_left] at stops
  rw [chars, Word.chars, List.cons_append] at text
  obtain ⟨rfl, rfl⟩ := List.cons.inj text
  rw [List.takeWhile_append_of_pos name.continues, takeWhile_eq_nil_iff_head?.2 stops,
    List.append_nil, ← String.toList_inj, chars, String.toList_ofList, Word.chars]

/-- Some reserved word stands first exactly where the whole name is one. -/
theorem exists_standsFirst_iff (r : ReservedWords) (c : Char) (cs : List Char) :
    (∃ word ∈ r.words, StandsFirst word (c :: cs)) ↔
      r.contains (String.ofList (c :: cs.takeWhile isIdContinue)) = true := by
  rw [← mem_words_iff]
  constructor
  · rintro ⟨word, listed, stands⟩
    exact stands.eq_name listed ▸ listed
  · intro listed
    exact ⟨_, listed, standsFirst_name c cs⟩

/-- **The longest first** finds the whole name, or nothing. -/
theorem probe_eq (r : ReservedWords) (c : Char) (cs : List Char) :
    r.probe (c :: cs) =
      if r.contains (String.ofList (c :: cs.takeWhile isIdContinue)) then
        some (String.ofList (c :: cs.takeWhile isIdContinue))
      else none := by
  have inWords : ∀ word ∈ r.ordered, word ∈ r.words := by
    intro word listed
    rwa [mem_words_iff, ← mem_ordered_iff]
  cases found : r.probe (c :: cs) with
  | some word =>
      have stands : StandsFirst word (c :: cs) := by simpa using List.find?_some found
      have listed := inWords word (List.mem_of_find?_eq_some found)
      rw [if_pos ((exists_standsFirst_iff r c cs).1 ⟨word, listed, stands⟩),
        ← stands.eq_name listed]
  | none =>
      have absent : ¬ r.contains (String.ofList (c :: cs.takeWhile isIdContinue)) = true := by
        intro contained
        have listed := (mem_ordered_iff r _).2 contained
        exact List.find?_eq_none.1 found _ listed (decide_eq_true (standsFirst_name c cs))
      rw [if_neg absent]

end ReservedWords

namespace Lexer

/-- **Reserved words are found by longest match.** After any commands, let `cs` be the
text to be tokenized first, and let it start with a character that starts a name. The
token is the longest name there. It is a reserved word exactly if some reserved word
stands first in `cs` and is not continued there; that word is then the whole token, and
the first to be found when the longest are tried first. Otherwise it is a plain name. -/
theorem pulls_longest_keywords (name source : String) (options : Options)
    (commands : List Command) (goal : Goal) (short : source.utf8ByteSize < counterBound - 1) :
    ∃ replies lx, (create name source options).drive commands = .ok (replies, lx) ∧
      ∃ cs token after, lx.PullsAt options goal cs token after ∧
        ∀ c more, cs = c :: more → isIdStart c = true →
          token.lexeme.toList = c :: more.takeWhile isIdContinue ∧ token.error = none ∧
          (token.kind = .reservedWord ↔
            ∃ word ∈ ReservedWords.words ⟨options.strictMode⟩,
              ReservedWords.StandsFirst word cs) ∧
          (token.kind ≠ .reservedWord → token.kind = .identifierName) ∧
          (∀ word ∈ ReservedWords.words ⟨options.strictMode⟩,
            ReservedWords.StandsFirst word cs → token.lexeme = word) ∧
          ReservedWords.probe ⟨options.strictMode⟩ cs =
            if token.kind = .reservedWord then some token.lexeme else none := by
  obtain ⟨replies, lx, run, cs, token, after, pull, carries⟩ :=
    exists_pull name options commands goal short
  refine ⟨replies, lx, run, cs, token, after, pull, ?_⟩
  rintro c more rfl starts
  obtain ⟨sameKind, sameLexeme, sameError⟩ := carries
  rw [Piece.scan_of_isIdStart options goal starts more] at sameKind sameLexeme sameError
  have text : token.lexeme = String.ofList (c :: more.takeWhile isIdContinue) := by
    rw [← String.toList_inj, sameLexeme, String.toList_ofList]
  have reserved : token.kind = .reservedWord ↔
      (ReservedWords.mk options.strictMode).contains token.lexeme = true := by
    rw [sameKind, text, Piece.kind_ok]
    split <;> simp_all
  refine ⟨sameLexeme, sameError, ?_, ?_, ?_, ?_⟩
  · rw [reserved, text, ReservedWords.exists_standsFirst_iff]
  · intro other
    rw [ne_eq, reserved, text] at other
    rw [sameKind, Piece.kind_ok, if_neg other]
  · intro word listed stands
    rw [text, stands.eq_name listed]
  · simp only [reserved, text]
    exact ReservedWords.probe_eq _ c more

/-- A long word that starts with a short one is found as a whole. -/
theorem pulls_longest_keywords_instanceof :
    "x instanceof(".utf8ByteSize < counterBound - 1 ∧
      ∃ replies lx, (create "a.js" "x instanceof(" { captureTrivia := false }).drive
          [.ask (.next .div), .ask (.peek .regExp)] = .ok (replies, lx) ∧
        ∃ token after, lx.next .div = .ok (token, after) ∧ token.kind = .reservedWord ∧
          token.lexeme = "instanceof" := by
  obtain ⟨replies, lx, run, cs, token, after, pull, words⟩ := pulls_longest_keywords "a.js"
    "x instanceof(" { captureTrivia := false } [.ask (.next .div), .ask (.peek .regExp)] .div
    (by decide)
  obtain ⟨_, _, evaluated, _, _, pulled, text⟩ :
      ∃ replies lx, (create "a.js" "x instanceof(" { captureTrivia := false }).drive
          [.ask (.next .div), .ask (.peek .regExp)] = .ok (replies, lx) ∧
        ∃ token after, lx.next .div = .ok (token, after) ∧
          token.lexeme.toList ++ after.place.rest = "instanceof(".toList :=
    ⟨_, _, rfl, _, _, rfl, by decide⟩
  rw [evaluated] at run
  cases run
  have same := pull.pulled
  rw [pulled] at same
  cases same
  have first : cs = "instanceof(".toList := pull.split.trans text
  have stands : ReservedWords.StandsFirst "instanceof" cs := by
    rw [first]
    decide +kernel
  obtain ⟨-, -, reserved, -, whole, -⟩ := words 'i' _ first (by decide)
  exact ⟨by decide, _, _, evaluated, _, _, pulled, reserved.2 ⟨_, by decide, stands⟩,
    whole _ (by decide) stands⟩

end Lexer

end GoalLexer
