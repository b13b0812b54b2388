import GoalLexer.Proofs.Names
import GoalLexer.Proofs.Session
import Mathlib.Data.List.Forall2

/-!
# Strict mode only relabels

Strict mode code reserves some words more, and this is all it does. The two tables of
reserved words differ by exactly those words (`ReservedWords.mem_ordered_strict`). The
table is asked for the kind of a complete identifier name and for nothing else: no
choice of a production depends on it, and no lexeme (`Piece.scan_strictly`).

So a reader and the same reader in strict mode, `Reader.strictly`, pass over the same
trivia, give tokens that are alike but for the label (`Relabels`), and stay together
(`Reader.after_strictly`). `Lexer.strict_mode_relabels` is the statement for lexers.
-/

set_option autoImplicit false

namespace GoalLexer

/-! ## The tables -/

namespace ReservedWords

/-- Strict mode adds its own words to the table. -/
theorem mem_ordered_strict (word : String) :
    word ∈ ordered ⟨true⟩ ↔ word ∈ ordered ⟨false⟩ ∨ word ∈ strictReserved := by
  rw [mem_ordered_iff, mem_ordered_iff]
  simp [contains]

theorem contains_strict (word : String) :
    contains ⟨true⟩ word = true ↔ contains ⟨false⟩ word = true ∨ word ∈ strictReserved := by
  rw [← mem_ordered_iff, ← mem_ordered_iff, mem_ordered_strict]

/-- The words of strict mode are names in ordinary code. -/
theorem contains_of_mem_strictReserved {word : String} (listed : word ∈ strictReserved) :
    contains ⟨false⟩ word = false := by
  have absent : ∀ word ∈ strictReserved, contains ⟨false⟩ word = false := by decide
  exact absent word listed

theorem exists_word_of_mem_strictReserved {word : String} (listed : word ∈ strictReserved) :
    ∃ name : Word, word.toList = name.chars :=
  exists_word_of_mem_words (r := ⟨true⟩) (by simp [words, listed])

end ReservedWords

/-! ## Relabelled tokens -/

/-- The token is an identifier name, be it reserved or not. -/
def Token.IsName (t : Token) : Prop := ∃ word : Word, t.lexeme.toList = word.chars

/-- A token of strict mode code and the token of ordinary code in its place: they have
the same text, position and error. They are of one kind, unless they are a name that
strict mode alone reserves, which is a reserved word here and a name there. -/
structure Relabels (strict ordinary : Token) : Prop where
  lexeme : strict.lexeme = ordinary.lexeme
  position : strict.position = ordinary.position
  error : strict.error = ordinary.error
  relabelled : strict.kind = .reservedWord ∧ ordinary.kind = .identifierName ↔
    ordinary.IsName ∧ ordinary.lexeme ∈ ReservedWords.strictReserved
  kind : ¬ (ordinary.IsName ∧ ordinary.lexeme ∈ ReservedWords.strictReserved) →
    strict.kind = ordinary.kind

/-- The same options in strict mode. -/
def Options.strictly (options : Options) : Options := { options with strictMode := true }

namespace Piece

/-- What strict mode changes in a piece: the kind, where the text is one of its words. -/
structure Relabelled (strict ordinary : Piece) : Prop where
  lexeme : strict.lexeme = ordinary.lexeme
  error : strict.error? = ordinary.error?
  listed : String.ofList ordinary.lexeme ∈ ReservedWords.strictReserved →
    strict.kind = .reservedWord ∧ ordinary.kind = .identifierName
  unlisted : String.ofList ordinary.lexeme ∉ ReservedWords.strictReserved →
    strict.kind = ordinary.kind

theorem word_relabelled (cs : List Char) : Relabelled (word ⟨true⟩ cs) (word ⟨false⟩ cs) where
  lexeme := rfl
  error := rfl
  listed := by
    intro listed
    have found := (ReservedWords.contains_strict _).2 (Or.inr listed)
    have absent := ReservedWords.contains_of_mem_strictReserved listed
    constructor
    · simp only [word, kind] at found ⊢
      rw [if_pos found]
    · simp only [word, kind] at absent ⊢
      rw [absent]
      rfl
  unlisted := by
    intro unlisted
    have same := ReservedWords.contains_strict (String.ofList (word ⟨false⟩ cs).lexeme)
    rw [or_iff_left unlisted, ← Bool.eq_iff_iff] at same
    simp only [word, kind] at same ⊢
    rw [same]

theorem relabelled_of_eq {strict ordinary : Piece} (same : strict = ordinary)
    (unlisted : String.ofList ordinary.lexeme ∉ ReservedWords.strictReserved) :
    Relabelled strict ordinary := by
  subst same
  exact ⟨rfl, rfl, fun listed => absurd listed unlisted, fun _ => rfl⟩

/-- A text that starts with a word of strict mode is a name. -/
theorem choose_of_strictReserved (options : Options) (goal : Goal) {cs lexeme : List Char}
    (starts : lexeme <+: cs) (listed : String.ofList lexeme ∈ ReservedWords.strictReserved) :
    Production.choose options goal cs = .word := by
  obtain ⟨name, text⟩ := ReservedWords.exists_word_of_mem_strictReserved listed
  rw [String.toList_ofList] at text
  obtain ⟨rest, rfl⟩ := starts
  rw [text]
  exact (Production.Applies.word name.starts).choose_eq

/-- **Every piece** keeps its text and error in strict mode. -/
theorem scan_strictly {options : Options} (ordinary : options.strictMode = false) (goal : Goal)
    (cs : List Char) :
    Relabelled (scan options.strictly goal cs) (scan options goal cs) := by
  have sameChoice : Production.choose options.strictly goal cs =
      Production.choose options goal cs := by
    cases cs <;> rfl
  unfold scan
  rw [sameChoice]
  cases chosen : Production.choose options goal cs with
  | word =>
      simp only [Production.run, ordinary]
      exact word_relabelled cs
  | _ =>
      -- no other production asks for the table, or takes one of the words
      refine relabelled_of_eq rfl fun listed => ?_
      have starts := scan_isPrefix options goal cs
      rw [scan, chosen] at starts
      have isWord := choose_of_strictReserved options goal starts listed
      rw [chosen] at isWord
      cases isWord

theorem Relabelled.isTrivia {strict ordinary : Piece} (relabelled : Relabelled strict ordinary) :
    strict.kind.isTrivia = ordinary.kind.isTrivia := by
  by_cases listed : String.ofList ordinary.lexeme ∈ ReservedWords.strictReserved
  · obtain ⟨reserved, name⟩ := relabelled.listed listed
    rw [reserved, name]
    rfl
  · rw [relabelled.unlisted listed]

end Piece

/-! ## Places -/

namespace Place

variable {options : Options} (ordinary : options.strictMode = false) (goal : Goal)

include ordinary

theorem past_strictly (p : Place) : p.past options.strictly goal = p.past options goal := by
  unfold past piece
  rw [(Piece.scan_strictly ordinary goal p.rest).lexeme]

theorem isSkipped_strictly (p : Place) :
    p.isSkipped options.strictly goal = p.isSkipped options goal := by
  unfold isSkipped piece
  rw [(Piece.scan_strictly ordinary goal p.rest).isTrivia]
  rfl

/-- The same trivia are passed over in strict mode. -/
theorem wanted_strictly (p : Place) : p.wanted options.strictly goal = p.wanted options goal :=
  wanted_eq_of_skips_alike options goal (isSkipped_strictly ordinary goal)
    (fun p _ => past_strictly ordinary goal p) p

/-- **The token at a place** is relabelled. -/
theorem token_strictly (name : String) (p : Place) :
    Relabels (p.token options.strictly goal name) (p.token options goal name) := by
  have relabelled := Piece.scan_strictly ordinary goal p.rest
  refine ⟨congrArg String.ofList relabelled.lexeme, rfl, relabelled.error, ?_, ?_⟩
  · constructor
    · rintro ⟨reserved, isName⟩
      have listed : (p.token options goal name).lexeme ∈ ReservedWords.strictReserved := by
        apply Classical.byContradiction
        intro unlisted
        have same : (p.token options.strictly goal name).kind = (p.token options goal name).kind :=
          relabelled.unlisted unlisted
        rw [reserved, isName] at same
        cases same
      exact ⟨ReservedWords.exists_word_of_mem_strictReserved listed, listed⟩
    · rintro ⟨-, listed⟩
      exact relabelled.listed listed
  · intro other
    refine relabelled.unlisted fun listed => other ⟨?_, listed⟩
    exact ReservedWords.exists_word_of_mem_strictReserved listed

end Place

/-! ## Readers -/

/-- A report says nothing of the kind. -/
theorem Relabels.report {strict ordinary : Token} (relabels : Relabels strict ordinary)
    (file : SourceFile) : strict.report file = ordinary.report file := by
  have covered : strict.span = ordinary.span := by
    simp only [Token.span, relabels.lexeme, relabels.position]
  rw [Token.report, Token.report, covered, relabels.error]

namespace Reader

/-- The reader in strict mode. -/
def strictly (r : Reader) : Reader := { r with options := r.options.strictly }

variable {r : Reader} (ordinary : r.options.strictMode = false)

include ordinary

theorem token_strictly (goal : Goal) : Relabels (r.strictly.token goal) (r.token goal) := by
  have here : r.strictly.next goal = r.next goal := Place.wanted_strictly ordinary goal r.place
  unfold token
  rw [here]
  exact Place.token_strictly ordinary goal r.name (r.next goal)

/-- **One pull** keeps the two readers together. -/
theorem after_strictly (goal : Goal) : r.strictly.after goal = (r.after goal).strictly := by
  have here : r.strictly.next goal = r.next goal := Place.wanted_strictly ordinary goal r.place
  have reported := (token_strictly ordinary goal).report r.file
  have moved : (r.next goal).past r.options.strictly goal = (r.next goal).past r.options goal :=
    Place.past_strictly ordinary goal (r.next goal)
  calc r.strictly.after goal
      = { r.strictly with
          place := (r.strictly.next goal).past r.options.strictly goal
          log := r.log.record ((r.strictly.token goal).report r.file) } := rfl
    _ = (r.after goal).strictly := by rw [here, moved, reported]; rfl

/-- **Every run of pulls** gives relabelled tokens. -/
theorem pulls_strictly (goals : List Goal) :
    List.Forall₂ Relabels (r.strictly.pulls goals).1 (r.pulls goals).1 ∧
      (r.strictly.pulls goals).2 = (r.pulls goals).2.strictly := by
  induction goals generalizing r with
  | nil => exact ⟨.nil, rfl⟩
  | cons goal goals ih =>
      have ordinaryNext : (r.after goal).options.strictMode = false := ordinary
      obtain ⟨tokens, last⟩ := ih ordinaryNext
      simp only [pulls, after_strictly ordinary goal]
      exact ⟨.cons (token_strictly ordinary goal) tokens, last⟩

end Reader

/-! ## Lexers -/

namespace Lexer

theorem Coherent.lookahead_pulls {lx last : Lexer} (coherent : lx.Coherent)
    (free : lx.lookahead = none) {goals : List Goal} {tokens : List Token}
    (run : lx.pulls goals = .ok (tokens, last)) : last.lookahead = none := by
  induction goals generalizing lx tokens with
  | nil =>
      cases run
      exact free
  | cons goal goals ih =>
      obtain ⟨after, pulled, coherentNext, -, freeNext⟩ := coherent.next goal
      obtain ⟨_, rest, -⟩ := coherentNext.pulls goals
      simp only [Lexer.pulls, pulled, rest, bind, Except.bind] at run
      cases run
      exact ih coherentNext freeNext rest

/-- **Strict mode only relabels.** Whatever the goals, the lexer in strict mode and the
lexer in ordinary mode pull the same tokens but for their labels, and report the same
diagnostics. -/
theorem strict_mode_relabels (name source : String) (options : Options) (goals : List Goal)
    (short : source.utf8ByteSize < counterBound - 1) :
    ∃ strict ordinary lx other,
      (create name source { options with strictMode := true }).pulls goals = .ok (strict, lx) ∧
      (create name source { options with strictMode := false }).pulls goals =
        .ok (ordinary, other) ∧
      List.Forall₂ Relabels strict ordinary ∧
      lx.place = other.place ∧ lx.log = other.log := by
  have start := create_coherent name { options with strictMode := true } short
  have startOther := create_coherent name { options with strictMode := false } short
  obtain ⟨lx, run, -, reached⟩ := start.pulls goals
  obtain ⟨other, runOther, -, reachedOther⟩ := startOther.pulls goals
  obtain ⟨tokens, last⟩ := Reader.pulls_strictly
    (r := (create name source { options with strictMode := false }).reader) rfl goals
  have together : lx.reader = other.reader.strictly := by
    rw [reached, reachedOther]
    exact last
  refine ⟨_, _, lx, other, run, runOther, tokens, ?_, ?_⟩
  · rw [← reader_place, ← reader_place, together]
    rfl
  · rw [log_of_none (start.lookahead_pulls rfl run),
      log_of_none (startOther.lookahead_pulls rfl runOther), together]
    rfl

/-- A word of strict mode alone, a longer name, a keyword, and a string that is not
closed. -/
theorem strict_mode_relabels_let :
    "let lets do'let".utf8ByteSize < counterBound - 1 ∧
      ∃ strict ordinary lx other,
        (create "a.js" "let lets do'let" { strictMode := true, captureTrivia := false }).pulls
            [.div, .regExp, .div, .templateTail] = .ok (strict, lx) ∧
        (create "a.js" "let lets do'let" { strictMode := false, captureTrivia := false }).pulls
            [.div, .regExp, .div, .templateTail] = .ok (ordinary, other) ∧
        strict.map (·.kind) = [.reservedWord, .identifierName, .reservedWord, .error] ∧
        ordinary.map (·.kind) = [.identifierName, .identifierName, .reservedWord, .error] ∧
        List.Forall₂ Relabels strict ordinary ∧ lx.place = other.place ∧ lx.log = other.log := by
  obtain ⟨strict, ordinary, lx, other, run, runOther, relabels, together⟩ :=
    strict_mode_relabels "a.js" "let lets do'let" { captureTrivia := false }
      [.div, .regExp, .div, .templateTail] (by decide)
  obtain ⟨_, _, evaluated, kinds⟩ :
      ∃ tokens lx, (create "a.js" "let lets do'let"
          { strictMode := true, captureTrivia := false }).pulls
          [.div, .regExp, .div, .templateTail] = .ok (tokens, lx) ∧
        tokens.map (·.kind) = [.reservedWord, .identifierName, .reservedWord, .error] :=
    ⟨_, _, rfl, by decide⟩
  obtain ⟨_, _, evaluatedOther, kindsOther⟩ :
      ∃ tokens lx, (create "a.js" "let lets do'let"
          { strictMode := false, captureTrivia := false }).pulls
          [.div, .regExp, .div, .templateTail] = .ok (tokens, lx) ∧
        tokens.map (·.kind) = [.identifierName, .identifierName, .reservedWord, .error] :=
    ⟨_, _, rfl, by decide⟩
  rw [evaluated] at run
  rw [evaluatedOther] at runOther
  cases run
  cases runOther
  exact ⟨by decide, _, _, _, _, evaluated, evaluatedOther, kinds, kindsOther, relabels, together⟩

end Lexer

end GoalLexer
