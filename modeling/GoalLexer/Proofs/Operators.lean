import GoalLexer.Proofs.LongestNumerals
import GoalLexer.Proofs.Pulled
import Mathlib.Data.List.MinMax

/-!
# Operators are split off by longest match

The longest entry of a table that stands first in a text is a `LongestEntry`. The table of
punctuators goes from long to short, so the first entry found is the longest
(`LongestEntry.of_find?`), and it is the token wherever no number starts
(`Piece.scan_kind_eq_punctuator_iff`, `Piece.scan_of_punctuator`). A slash that opens no
comment divides under the goals that allow it, and takes an equals sign along
(`Piece.scan_kind_eq_divPunctuator_iff`, `Piece.scan_of_divides`).

Both together are the `operators` of a goal. `SplitsGreedily` takes the longest of them
off a text again and again. A run of operator characters is split in this way up to its
end, or to the place where a number or a comment starts (`exists_splitsGreedily`), and the
pulls of a lexer follow the split (`Lexer.Aligned.pulls_of_splitsGreedily`).
`Lexer.pulls_longest_operators` puts the parts together.
-/

set_option autoImplicit false

namespace GoalLexer

/-! ## Longest entries of a table -/

/-- The entry of the table stands first in the text, and all others that do are shorter. -/
structure LongestEntry (table : List String) (cs : List Char) (text : String) : Prop where
  mem : text ∈ table
  starts : text.toList <+: cs
  lt : ∀ other ∈ table, other.toList <+: cs → other ≠ text → other.length < text.length

namespace LongestEntry

variable {table others : List String} {cs : List Char} {text other : String}

theorem unique (longest : LongestEntry table cs text) (same : LongestEntry table cs other) :
    text = other := by
  by_contra apart
  have shorter := longest.lt other same.mem same.starts (Ne.symm apart)
  have longer := same.lt text longest.mem longest.starts apart
  omega

/-- Entries of one length that stand first are the same. -/
theorem of_le (mem : text ∈ table) (starts : text.toList <+: cs)
    (le : ∀ other ∈ table, other.toList <+: cs → other.length ≤ text.length) :
    LongestEntry table cs text where
  mem := mem
  starts := starts
  lt := by
    intro other listed startsToo apart
    refine Nat.lt_of_le_of_ne (le other listed startsToo) ?_
    intro sameLength
    rw [← String.length_toList, ← String.length_toList] at sameLength
    have inside := List.prefix_of_prefix_length_le startsToo starts (Nat.le_of_eq sameLength)
    exact apart (String.toList_inj.1 (inside.eq_of_length sameLength))

/-- **The first entry is the longest** in a table that goes from long to short. -/
theorem of_find? (ordered : table.Pairwise fun a b => b.length ≤ a.length)
    (found : table.find? (fun p => p.toList.isPrefixOf cs) = some text) :
    LongestEntry table cs text := by
  obtain ⟨first, before, behind, rfl, skipped⟩ := List.find?_eq_some_iff_append.1 found
  refine of_le (by simp) (List.isPrefixOf_iff_prefix.1 first) ?_
  intro other listed starts
  rcases List.mem_append.1 listed with early | late
  · have absent := skipped other early
    rw [List.isPrefixOf_iff_prefix.2 starts] at absent
    cases absent
  · rcases List.mem_cons.1 late with rfl | late
    · exact Nat.le_refl _
    · exact (List.pairwise_cons.1 (List.pairwise_append.1 ordered).2.1).1 other late

theorem exists_of_isPrefix (some : ∃ text ∈ table, text.toList <+: cs) :
    ∃ text, LongestEntry table cs text := by
  obtain ⟨text, listed, starts⟩ := some
  cases found : (table.filter (·.toList.isPrefixOf cs)).argmax String.length with
  | none =>
      rw [List.argmax_eq_none, List.filter_eq_nil_iff] at found
      exact absurd (List.isPrefixOf_iff_prefix.2 starts) (found text listed)
  | some longest =>
      have inside := List.mem_filter.1 (List.argmax_mem found)
      refine ⟨longest, of_le inside.1 (List.isPrefixOf_iff_prefix.1 inside.2) ?_⟩
      intro other listedToo startsToo
      exact List.le_of_mem_argmax
        (List.mem_filter.2 ⟨listedToo, List.isPrefixOf_iff_prefix.2 startsToo⟩) found

/-- The longest entry of two tables is that of the one it is from. -/
theorem of_append (longest : LongestEntry (table ++ others) cs text) :
    LongestEntry table cs text ∨ LongestEntry others cs text := by
  rcases List.mem_append.1 longest.mem with inTable | inOthers
  · exact .inl ⟨inTable, longest.starts, fun other listed =>
      longest.lt other (List.mem_append_left _ listed)⟩
  · exact .inr ⟨inOthers, longest.starts, fun other listed =>
      longest.lt other (List.mem_append_right _ listed)⟩

end LongestEntry

/-! ## Punctuators -/

theorem longestEntry_iff {cs : List Char} {text : String} :
    LongestEntry punctuators cs text ↔ punctuator? cs = some text := by
  have ordered : punctuators.Pairwise fun a b => b.length ≤ a.length := by decide +kernel
  refine ⟨?_, LongestEntry.of_find? ordered⟩
  intro longest
  cases found : punctuator? cs with
  | none =>
      have absent := List.find?_eq_none.1 found text longest.mem
      exact absurd (List.isPrefixOf_iff_prefix.2 longest.starts) absent
  | some other => rw [longest.unique (.of_find? ordered found)]

/-- The text starts with a slash that opens no comment, and the goal lets it divide. -/
def Divides (goal : Goal) (cs : List Char) : Prop :=
  goal.allowsDiv = true ∧
    ∃ rest, cs = '/' :: rest ∧ rest.head? ≠ some '/' ∧ rest.head? ≠ some '*'

/-! ## The choice of operators -/

namespace Production

variable (options : Options) (goal : Goal)

/-- A punctuator is chosen where no number starts, and it is the longest. -/
theorem choose_eq_punctuator_iff {cs : List Char} {text : String} :
    choose options goal cs = .punctuator text ↔
      Piece.startsNumber options.signedNumericLiterals cs = false ∧
        LongestEntry punctuators cs text := by
  rw [choose_eq_iff, longestEntry_iff]
  constructor
  · intro applies
    cases applies with
    | punctuator noNumber found => exact ⟨noNumber, found⟩
  · rintro ⟨noNumber, found⟩
    exact .punctuator noNumber found

theorem choose_eq_division_iff {cs : List Char} :
    choose options goal cs = .division ↔ Divides goal cs := by
  rw [choose_eq_iff]
  constructor
  · intro applies
    cases applies with
    | division divides notLine notBlock => exact ⟨divides, _, rfl, notLine, notBlock⟩
  · rintro ⟨divides, rest, rfl, notLine, notBlock⟩
    exact .division divides notLine notBlock

/-- Punctuators and dividing slashes come from one production each. -/
theorem eq_of_run_kind {production : Production} {cs : List Char} :
    ((production.run options cs).kind = .punctuator → ∃ text, production = .punctuator text) ∧
      ((production.run options cs).kind = .divPunctuator → production = .division) := by
  have listed := run_kind_mem options production cs
  constructor
  · intro kind
    rw [kind] at listed
    cases production <;> simp [kinds] at listed ⊢
  · intro kind
    rw [kind] at listed
    cases production <;> simp [kinds] at listed ⊢

end Production

/-- No word of the grammar stands first exactly where no number starts. -/
theorem Numeral.absent_iff {signed : Bool} {cs : List Char} :
    Absent (numeral signed).matches' cs ↔ Piece.startsNumber signed cs = false := by
  rw [← Bool.not_eq_true, startsNumber_iff]
  constructor
  · rintro absent ⟨w, listed, -, starts⟩
    exact absent w listed starts
  · intro none w listed starts
    refine none ⟨w, listed, ?_, starts⟩
    rintro rfl
    have filled : (numeral signed).matchEpsilon = false := by cases signed <;> decide
    rw [Grammar.nil_mem_iff, filled] at listed
    cases listed

namespace Piece

variable (options : Options) {goal : Goal} {cs : List Char} {text : String}

/-- **A punctuator** that stands first is taken where no number starts. -/
theorem scan_of_punctuator (longest : LongestEntry punctuators cs text)
    (absent : Absent (Numeral.numeral options.signedNumericLiterals).matches' cs) :
    scan options goal cs = ⟨text.toList, .ok .punctuator⟩ := by
  rw [scan, (Production.choose_eq_punctuator_iff options goal).2
    ⟨Numeral.absent_iff.1 absent, longest⟩]
  rfl

theorem scan_kind_eq_punctuator_iff :
    (scan options goal cs).kind = .punctuator ↔
      (∃ text ∈ punctuators, text.toList <+: cs) ∧
        Absent (Numeral.numeral options.signedNumericLiterals).matches' cs := by
  constructor
  · intro kind
    obtain ⟨text, chosen⟩ := (Production.eq_of_run_kind options).1 kind
    obtain ⟨number, longest⟩ := (Production.choose_eq_punctuator_iff options goal).1 chosen
    exact ⟨⟨text, longest.mem, longest.starts⟩, Numeral.absent_iff.2 number⟩
  · rintro ⟨some, absent⟩
    obtain ⟨text, longest⟩ := LongestEntry.exists_of_isPrefix some
    rw [scan_of_punctuator options longest absent]
    rfl

/-- The slash takes an equals sign along. -/
theorem longestEntry_slash (rest : List Char) :
    LongestEntry ["/=", "/"] ('/' :: rest) (if rest.head? = some '=' then "/=" else "/") := by
  apply LongestEntry.of_find? (by decide)
  cases rest with
  | nil => rfl
  | cons c rest =>
      by_cases equals : c = '='
      · subst equals
        rfl
      · simp [equals, Ne.symm equals]

/-- **A slash** that divides is taken with an equals sign behind it. -/
theorem scan_of_divides (divides : Divides goal cs) (longest : LongestEntry ["/=", "/"] cs text) :
    scan options goal cs = ⟨text.toList, .ok .divPunctuator⟩ := by
  rw [scan, (Production.choose_eq_division_iff options goal).2 divides]
  obtain ⟨-, rest, rfl, -⟩ := divides
  rw [longest.unique (longestEntry_slash rest)]
  cases rest with
  | nil => rfl
  | cons c rest =>
      by_cases equals : c = '=' <;> simp [Production.run, divPunctuator, oneIf, equals]

theorem scan_kind_eq_divPunctuator_iff :
    (scan options goal cs).kind = .divPunctuator ↔ Divides goal cs := by
  constructor
  · intro kind
    exact (Production.choose_eq_division_iff options goal).1
      ((Production.eq_of_run_kind options).2 kind)
  · intro divides
    obtain ⟨-, rest, rfl, -⟩ := id divides
    rw [scan_of_divides options divides (longestEntry_slash rest)]
    rfl

end Piece

/-! ## Runs of operators -/

/-- The operators under a goal: the punctuators, and the slashes where they divide. -/
def operators (goal : Goal) : List String :=
  punctuators ++ if goal.allowsDiv then ["/=", "/"] else []

def operatorKind (text : String) : TokenKind :=
  if text ∈ punctuators then .punctuator else .divPunctuator

def isOperatorChar (goal : Goal) (c : Char) : Bool :=
  (operators goal).any (·.toList.contains c)

/-- Neither a number nor a comment stands first in the text; both come before operators. -/
structure Unclaimed (options : Options) (cs : List Char) : Prop where
  number : Absent (Numeral.numeral options.signedNumericLiterals).matches' cs
  line : ¬ ['/', '/'] <+: cs
  block : ¬ ['/', '*'] <+: cs

/-- The longest operator is taken off the front of the text, again and again. -/
inductive SplitsGreedily (options : Options) (goal : Goal) :
    List Char → List String → List Char → Prop
  | done (cs : List Char) : SplitsGreedily options goal cs [] cs
  | take {text : String} {rest left : List Char} {texts : List String}
      (longest : LongestEntry (operators goal) (text.toList ++ rest) text)
      (unclaimed : Unclaimed options (text.toList ++ rest))
      (splits : SplitsGreedily options goal rest texts left) :
      SplitsGreedily options goal (text.toList ++ rest) (text :: texts) left

/-- Operators are not empty, and each of their characters is an operator. -/
theorem operators_closed (goal : Goal) : ∀ text ∈ operators goal,
    text.toList ≠ [] ∧ ∀ c ∈ text.toList, String.singleton c ∈ operators goal := by
  intro text listed
  rcases List.mem_append.1 listed with inTable | slash
  · obtain ⟨filled, closed⟩ := punctuators_closed text inTable
    exact ⟨filled, fun c mem => List.mem_append_left _ (closed c mem)⟩
  · cases divides : goal.allowsDiv with
    | false => simp [divides] at slash
    | true =>
        have slashes : ∀ text ∈ ["/=", "/"], text.toList ≠ [] ∧ text.toList.all (fun c =>
            decide (String.singleton c ∈ punctuators ++ ["/=", "/"])) = true := by decide +kernel
        rw [divides, if_pos rfl] at slash
        obtain ⟨filled, all⟩ := slashes text slash
        rw [operators, divides, if_pos rfl]
        exact ⟨filled, fun c mem => of_decide_eq_true (List.all_eq_true.1 all c mem)⟩

/-- A text starts with an operator exactly where its first character is one of an operator. -/
theorem exists_operator_iff {goal : Goal} {cs : List Char} :
    (∃ text ∈ operators goal, text.toList <+: cs) ↔ cs.head?.any (isOperatorChar goal) = true := by
  simp only [Option.any_eq_true, isOperatorChar, List.any_eq_true, List.contains_iff_mem]
  constructor
  · rintro ⟨text, listed, rest, rfl⟩
    obtain ⟨c, more, chars⟩ := List.exists_cons_of_ne_nil (operators_closed goal text listed).1
    exact ⟨c, by simp [chars], text, listed, by simp [chars]⟩
  · rintro ⟨c, first, text, listed, mem⟩
    refine ⟨_, (operators_closed goal text listed).2 c mem, ?_⟩
    obtain ⟨rest, rfl⟩ := List.head?_eq_some_iff.1 first
    simp

/-- **The longest operator is scanned** where it is not claimed by a number or a comment. -/
theorem Piece.scan_of_operator {options : Options} {goal : Goal} {cs : List Char} {text : String}
    (longest : LongestEntry (operators goal) cs text) (unclaimed : Unclaimed options cs) :
    scan options goal cs = ⟨text.toList, .ok (operatorKind text)⟩ := by
  rcases longest.of_append with inTable | slash
  · rw [scan_of_punctuator options inTable unclaimed.number, operatorKind, if_pos inTable.mem]
  · cases divides : goal.allowsDiv with
    | false =>
        have listed := slash.mem
        simp [divides] at listed
    | true =>
        rw [divides, if_pos rfl] at slash
        have apart : text ∉ punctuators := by
          have both : ∀ text ∈ ["/=", "/"], text ∉ punctuators := by decide +kernel
          exact both text slash.mem
        have first : ['/'] <+: cs := by
          have both : ∀ text ∈ ["/=", "/"], ['/'] <+: text.toList := by decide +kernel
          exact (both text slash.mem).trans slash.starts
        obtain ⟨rest, rfl⟩ := first
        have opens : Divides goal ('/' :: rest) := by
          refine ⟨divides, rest, rfl, ?_, ?_⟩
          · intro second
            obtain ⟨more, rfl⟩ := List.head?_eq_some_iff.1 second
            exact unclaimed.line ⟨more, rfl⟩
          · intro second
            obtain ⟨more, rfl⟩ := List.head?_eq_some_iff.1 second
            exact unclaimed.block ⟨more, rfl⟩
        rw [operatorKind, if_neg apart]
        exact scan_of_divides options opens slash

theorem operatorKind_isTrivia (text : String) : (operatorKind text).isTrivia = false := by
  unfold operatorKind
  split <;> rfl

/-- **A run of operator characters** is split up to its end, or to the place where a number
or a comment starts. -/
theorem exists_splitsGreedily (options : Options) (goal : Goal) (cs : List Char) :
    ∃ texts left, SplitsGreedily options goal cs texts left ∧
      (left = cs.dropWhile (isOperatorChar goal) ∨ ¬ Unclaimed options left) := by
  induction size : cs.length using Nat.strong_induction_on generalizing cs with
  | _ n ih =>
      by_cases unclaimed : Unclaimed options cs
      · by_cases starts : ∃ text ∈ operators goal, text.toList <+: cs
        · obtain ⟨text, longest⟩ := LongestEntry.exists_of_isPrefix starts
          obtain ⟨rest, rfl⟩ := longest.starts
          have filled := List.length_pos_iff.2 (operators_closed goal text longest.mem).1
          rw [List.length_append] at size
          obtain ⟨texts, left, splits, stops⟩ := ih rest.length (by omega) rest rfl
          refine ⟨text :: texts, left, .take longest unclaimed splits, ?_⟩
          have inRun : ∀ c ∈ text.toList, isOperatorChar goal c = true := fun c mem =>
            List.any_eq_true.2 ⟨text, longest.mem, List.contains_iff_mem.2 mem⟩
          rwa [List.dropWhile_append_of_pos inRun]
        · refine ⟨[], cs, .done cs, .inl ?_⟩
          rw [exists_operator_iff] at starts
          cases cs with
          | nil => rfl
          | cons c cs => rw [List.dropWhile_cons_of_neg (by simpa using starts)]
      · exact ⟨[], cs, .done cs, .inr unclaimed⟩

/-! ## Pulls of operators -/

namespace Lexer

/-- **Pulls follow the split**: they give its texts one after the other. The first of them
may have trivia to skip, the others stand next to each other. -/
theorem Aligned.pulls_of_splitsGreedily {options : Options} {goal : Goal} {cs left : List Char}
    {texts : List String} (splits : SplitsGreedily options goal cs texts left)
    {name source : String} {lx : Lexer} (aligned : Aligned name source options lx)
    (reach : lx.place.rest = cs ∨ texts ≠ [] ∧ FirstText options lx.place.rest cs) :
    ∃ tokens last, lx.pulls (List.replicate texts.length goal) = .ok (tokens, last) ∧
      tokens.map (fun token => (token.kind, token.lexeme)) =
        texts.map (fun text => (operatorKind text, text)) ∧ last.place.rest = left := by
  induction splits generalizing lx with
  | done cs =>
      rcases reach with here | ⟨some, -⟩
      · exact ⟨[], lx, rfl, rfl, here⟩
      · exact absurd rfl some
  | @take text rest left texts longest unclaimed splits ih =>
      have scanned := Piece.scan_of_operator longest unclaimed
      have bare : Bare (text.toList ++ rest) := by
        rw [Piece.bare_iff options goal, scanned]
        exact operatorKind_isTrivia text
      have first : FirstText options lx.place.rest (text.toList ++ rest) := by
        rcases reach with here | ⟨-, first⟩
        · rw [here]
          exact ⟨fun _ => rfl, fun _ => ⟨.done _, bare⟩⟩
        · exact first
      obtain ⟨token, after, pull, carries, alignedNext⟩ := aligned.pullsAt_first first goal
      rw [scanned] at carries
      have lexeme : token.lexeme = text := String.toList_inj.1 carries.lexeme
      have behind : after.place.rest = rest := by
        have split := pull.split
        rw [lexeme] at split
        exact (List.append_cancel_left split).symm
      obtain ⟨tokens, last, more, same, done⟩ := ih alignedNext (.inl behind)
      refine ⟨token :: tokens, last, ?_, ?_, done⟩
      · simp only [List.length_cons, List.replicate_succ, Lexer.pulls, pull.pulled, more, bind,
          Except.bind]
        rfl
      · rw [List.map_cons, List.map_cons, same, lexeme, carries.kind]
        rfl

/-- **Operators are split off by longest match.** After any commands, let `cs` be the text
to be tokenized first. The token is a punctuator exactly if an entry of the table stands
first in `cs` and no number does. It is then the longest such entry, and neither a slash
nor a closing brace. The token is a dividing slash exactly if the goal allows it and `cs`
starts with a slash that opens no comment, and it takes an equals sign along. So pulls
under one goal split a run of operator characters greedily: each token is the longest
operator at its place, up to the end of the run or a number or comment in it. -/
theorem pulls_longest_operators (name source : String) (options : Options)
    (commands : List Command) (goal : Goal) (short : source.utf8ByteSize < counterBound - 1) :
    ∃ replies lx, (create name source options).drive commands = .ok (replies, lx) ∧
      ∃ cs token after, lx.PullsAt options goal cs token after ∧
        (token.kind = .punctuator ↔
          (∃ text ∈ punctuators, text.toList <+: cs) ∧
            Absent (Numeral.numeral options.signedNumericLiterals).matches' cs) ∧
        (token.kind = .punctuator →
          LongestEntry punctuators cs token.lexeme ∧ token.lexeme ∉ ["/", "/=", "\x7d"]) ∧
        (token.kind = .divPunctuator ↔ Divides goal cs) ∧
        (token.kind = .divPunctuator →
          token.lexeme = if "/=".toList <+: cs then "/=" else "/") ∧
        ∃ texts left tokens last, SplitsGreedily options goal cs texts left ∧
          (left = cs.dropWhile (isOperatorChar goal) ∨ ¬ Unclaimed options left) ∧
          lx.pulls (List.replicate texts.length goal) = .ok (tokens, last) ∧
          tokens.map (fun token => (token.kind, token.lexeme)) =
            texts.map (fun text => (operatorKind text, text)) ∧
          (texts ≠ [] → last.place.rest = left) := by
  obtain ⟨replies, lx, run, aligned⟩ := (create_aligned name options short).drive commands
  obtain ⟨cs, token, after, pull, carries⟩ := aligned.pullsAt goal
  have punctuates : token.kind = .punctuator ↔
      (∃ text ∈ punctuators, text.toList <+: cs) ∧
        Absent (Numeral.numeral options.signedNumericLiterals).matches' cs := by
    rw [carries.kind, Piece.scan_kind_eq_punctuator_iff]
  have divides : token.kind = .divPunctuator ↔ Divides goal cs := by
    rw [carries.kind, Piece.scan_kind_eq_divPunctuator_iff]
  refine ⟨replies, lx, run, cs, token, after, pull, punctuates, ?_, divides, ?_, ?_⟩
  · intro kind
    obtain ⟨starts, absent⟩ := punctuates.1 kind
    obtain ⟨text, longest⟩ := LongestEntry.exists_of_isPrefix starts
    have lexeme := carries.lexeme
    rw [Piece.scan_of_punctuator options longest absent] at lexeme
    obtain rfl : token.lexeme = text := String.toList_inj.1 lexeme
    refine ⟨longest, ?_⟩
    have apart : ∀ text ∈ punctuators, text ∉ ["/", "/=", "\x7d"] := by decide +kernel
    exact apart token.lexeme longest.mem
  · intro kind
    obtain ⟨-, rest, rfl, -⟩ := id (divides.1 kind)
    have lexeme := carries.lexeme
    rw [Piece.scan_of_divides options (divides.1 kind) (Piece.longestEntry_slash rest)] at lexeme
    rw [String.toList_inj.1 lexeme]
    cases rest <;> simp [eq_comm]
  · obtain ⟨texts, left, splits, stops⟩ := exists_splitsGreedily options goal cs
    by_cases none : texts = []
    · subst none
      exact ⟨[], left, [], lx, splits, stops, rfl, rfl, fun some => absurd rfl some⟩
    · obtain ⟨tokens, last, pulled, same, done⟩ :=
        Aligned.pulls_of_splitsGreedily splits aligned (.inr ⟨none, pull.first⟩)
      exact ⟨texts, left, tokens, last, splits, stops, pulled, same, fun _ => done⟩

/-- Two shifts in a row behind a skipped blank, and a minus sign that belongs to a number. -/
theorem pulls_longest_operators_shifts :
    "a >>>=>>>-.5".utf8ByteSize < counterBound - 1 ∧
      ∃ replies lx, (create "a.js" "a >>>=>>>-.5" { captureTrivia := false }).drive
          [.ask (.next .div), .ask (.peek .regExp)] = .ok (replies, lx) ∧
        ∃ cs token after, lx.PullsAt { captureTrivia := false } .div cs token after ∧
          cs = ">>>=>>>-.5".toList ∧ token.kind = .punctuator ∧ token.lexeme = ">>>=" ∧
          ∃ texts left tokens last,
            SplitsGreedily { captureTrivia := false } .div cs texts left ∧
            (left = cs.dropWhile (isOperatorChar .div) ∨
              ¬ Unclaimed { captureTrivia := false } left) ∧
            lx.pulls (List.replicate texts.length .div) = .ok (tokens, last) ∧
            tokens.map (fun token => (token.kind, token.lexeme)) =
              texts.map (fun text => (operatorKind text, text)) := by
  obtain ⟨replies, lx, run, cs, token, after, pull, punctuates, longest, -, -, texts, left, tokens,
    last, splits, stops, pulls, same, -⟩ := pulls_longest_operators "a.js" "a >>>=>>>-.5"
      { captureTrivia := false } [.ask (.next .div), .ask (.peek .regExp)] .div (by decide)
  obtain ⟨_, _, evaluated, _, _, pulled, text⟩ :
      ∃ replies lx, (create "a.js" "a >>>=>>>-.5" { captureTrivia := false }).drive
          [.ask (.next .div), .ask (.peek .regExp)] = .ok (replies, lx) ∧
        ∃ token after, lx.next .div = .ok (token, after) ∧
          token.lexeme.toList ++ after.place.rest = ">>>=>>>-.5".toList :=
    ⟨_, _, rfl, _, _, rfl, by decide⟩
  rw [evaluated] at run
  cases run
  have alike := pull.pulled
  rw [pulled] at alike
  cases alike
  have first : cs = ">>>=>>>-.5".toList := pull.split.trans text
  subst first
  have found : punctuator? ">>>=>>>-.5".toList = some ">>>=" := by decide +kernel
  have shift := longestEntry_iff.2 found
  have kind := punctuates.2 ⟨⟨_, shift.mem, shift.starts⟩, Numeral.absent_iff.2 (by decide)⟩
  exact ⟨by decide, _, _, evaluated, _, _, _, pull, rfl, kind, (longest kind).1.unique shift,
    texts, left, tokens, last, splits, stops, pulls, same⟩

end Lexer

end GoalLexer
