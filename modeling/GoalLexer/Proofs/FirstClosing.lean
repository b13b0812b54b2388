import GoalLexer.Proofs.Pulled

/-!
# Comments and strings end at their first closing

Strings and comments are the four `Enclosure`s: an opening, content that is not looked
into, and a closing. `FirstFrom` says where in a text the first closing is, by its index
alone: no rule for escapes, line ends or nesting enters.

The scanners of strings, of comments and of lines are one search each (`through`) for the
closing of theirs (`Enclosure.scan_append`). The search stops at the first closing, or
there is none (`through_cases`). `Lexer.enclosures_end_first` says so of lexers.
-/

set_option autoImplicit false

namespace GoalLexer

/-! ## The first closing -/

/-- Of the indices from `start` on, `index` is the first where the rest of the text
satisfies `p`. -/
structure FirstFrom (p : List Char → Bool) (start : Nat) (cs : List Char) (index : Nat) :
    Prop where
  le : start ≤ index
  holds : p (cs.drop index) = true
  first : ∀ i, start ≤ i → i < index → p (cs.drop i) = false

/-- From `start` on no rest of the text satisfies `p`. -/
def NowhereFrom (p : List Char → Bool) (start : Nat) (cs : List Char) : Prop :=
  ∀ i, start ≤ i → p (cs.drop i) = false

theorem FirstFrom.unique {p : List Char → Bool} {start i j : Nat} {cs : List Char}
    (one : FirstFrom p start cs i) (other : FirstFrom p start cs j) : i = j := by
  rcases Nat.lt_trichotomy i j with less | same | more
  · have early := other.first i one.le less
    rw [one.holds] at early
    cases early
  · exact same
  · have early := one.first j other.le more
    rw [other.holds] at early
    cases early

/-- The text through its first closing, of which `width` characters are kept. -/
def through (closes : List Char → Bool) (width : Nat) : List Char → Option (List Char)
  | [] => none
  | c :: cs =>
      if closes (c :: cs) then some ((c :: cs).take width)
      else (through closes width cs).map (c :: ·)

/-- **The search** stops at the first closing, and finds none only where there is none. -/
theorem through_cases {closes : List Char → Bool} (filled : closes [] = false) (width : Nat)
    (cs : List Char) :
    (∃ index, FirstFrom closes 0 cs index ∧
        through closes width cs = some (cs.take (index + width))) ∨
      NowhereFrom closes 0 cs ∧ through closes width cs = none := by
  induction cs with
  | nil =>
      refine .inr ⟨?_, rfl⟩
      intro i _
      rw [List.drop_nil, filled]
  | cons c cs ih =>
      cases here : closes (c :: cs) with
      | true =>
          refine .inl ⟨0, ⟨Nat.le_refl 0, here, ?_⟩, ?_⟩
          · intro i _ early
            exact absurd early (Nat.not_lt_zero i)
          · rw [through, if_pos here, Nat.zero_add]
      | false =>
          have goesOn : through closes width (c :: cs) =
              (through closes width cs).map (c :: ·) := by
            simp [through, here]
          rcases ih with ⟨index, first, found⟩ | ⟨nowhere, none⟩
          · refine .inl ⟨index + 1, ⟨Nat.zero_le _, first.holds, ?_⟩, ?_⟩
            · intro i _ early
              cases i with
              | zero => exact here
              | succ i => exact first.first i (Nat.zero_le i) (Nat.lt_of_succ_lt_succ early)
            · rw [goesOn, found, Nat.add_right_comm]
              rfl
          · refine .inr ⟨?_, by rw [goesOn, none]; rfl⟩
            intro i _
            cases i with
            | zero => exact here
            | succ i => exact nowhere i (Nat.zero_le i)

theorem FirstFrom.append {p : List Char → Bool} {cs : List Char} {index : Nat}
    (first : FirstFrom p 0 cs index) (opening : List Char) :
    FirstFrom p opening.length (opening ++ cs) (opening.length + index) where
  le := Nat.le_add_right _ _
  holds := by
    rw [List.drop_length_add_append]
    exact first.holds
  first := by
    intro i le early
    obtain ⟨i, rfl⟩ := Nat.exists_eq_add_of_le le
    rw [List.drop_length_add_append]
    exact first.first i (Nat.zero_le i) (by omega)

theorem NowhereFrom.append {p : List Char → Bool} {cs : List Char} (nowhere : NowhereFrom p 0 cs)
    (opening : List Char) : NowhereFrom p opening.length (opening ++ cs) := by
  intro i le
  obtain ⟨i, rfl⟩ := Nat.exists_eq_add_of_le le
  rw [List.drop_length_add_append]
  exact nowhere i (Nat.zero_le i)

/-! ## Strings and comments -/

/-- What runs from an opening to the first closing behind it. -/
inductive Enclosure where
  | doubleQuoted
  | singleQuoted
  | block
  /-- A comment up to the end of its line. -/
  | line
  deriving DecidableEq, Repr

namespace Enclosure

def opening : Enclosure → List Char
  | doubleQuoted => ['"']
  | singleQuoted => ['\x27']
  | block => ['/', '*']
  | line => ['/', '/']

/-- Whether a closing stands first in the text. -/
def closes : Enclosure → List Char → Bool
  | doubleQuoted, cs => ['"'].isPrefixOf cs
  | singleQuoted, cs => ['\x27'].isPrefixOf cs
  | block, cs => ['*', '/'].isPrefixOf cs
  | line, cs => cs.head?.any isLineTerminator

/-- How much of the closing belongs to the token: the end of a line does not. -/
def width : Enclosure → Nat
  | doubleQuoted | singleQuoted => 1
  | block => 2
  | line => 0

def kind : Enclosure → TokenKind
  | doubleQuoted | singleQuoted => .stringLiteral
  | block => .multiLineComment
  | line => .singleLineComment

/-- What comes of an opening without closing: the last line needs none. -/
def unclosed : Enclosure → Except LexError TokenKind
  | doubleQuoted | singleQuoted => .error .unterminatedString
  | block => .error .unterminatedComment
  | line => .ok .singleLineComment

theorem closes_nil (e : Enclosure) : e.closes [] = false := by
  cases e <;> rfl

/-- The piece from an opening through the closing that is searched for. -/
def piece (e : Enclosure) (cs : List Char) : Piece :=
  match through e.closes e.width cs with
  | some body => ⟨e.opening ++ body, .ok e.kind⟩
  | none => ⟨e.opening ++ cs, e.unclosed⟩

/-- **A piece ends with the first closing**, and takes all where there is none. -/
theorem piece_cases (e : Enclosure) (cs : List Char) :
    (∃ index, FirstFrom e.closes e.opening.length (e.opening ++ cs) index ∧
        e.piece cs = ⟨(e.opening ++ cs).take (index + e.width), .ok e.kind⟩) ∨
      NowhereFrom e.closes e.opening.length (e.opening ++ cs) ∧
        e.piece cs = ⟨e.opening ++ cs, e.unclosed⟩ := by
  rcases through_cases e.closes_nil e.width cs with ⟨index, first, found⟩ | ⟨nowhere, none⟩
  · refine .inl ⟨_, first.append e.opening, ?_⟩
    rw [piece, found, Nat.add_assoc, List.take_length_add_append]
  · refine .inr ⟨nowhere.append e.opening, ?_⟩
    rw [piece, none]

end Enclosure

/-! ## The scanners -/

namespace Piece

theorem stringBody_eq_through (quote : Char) (cs : List Char) :
    stringBody quote cs = through [quote].isPrefixOf 1 cs := by
  induction cs with
  | nil => rfl
  | cons c cs ih =>
      have sameTest : [quote].isPrefixOf (c :: cs) = (c == quote) := by
        simp [List.isPrefixOf, BEq.comm]
      rw [stringBody, through, sameTest, ih]
      rfl

theorem commentBody_eq_through (cs : List Char) :
    commentBody cs = through ['*', '/'].isPrefixOf 2 cs := by
  induction cs with
  | nil => rfl
  | cons c cs ih =>
      have sameTest :
          ['*', '/'].isPrefixOf (c :: cs) = (c == '*' && cs.head? == some '/') := by
        cases cs <;> simp [List.isPrefixOf, BEq.comm]
      rw [commentBody, through, sameTest, ih]
      split
      · rename_i ends
        simp only [Bool.and_eq_true, beq_iff_eq] at ends
        obtain ⟨rfl, slash⟩ := ends
        obtain ⟨rest, rfl⟩ := List.head?_eq_some_iff.1 slash
        rfl
      · rfl

/-- A line that no terminator ends is all of the text. -/
theorem takeWhile_eq_through (cs : List Char) :
    cs.takeWhile (!isLineTerminator ·) =
      (through (·.head?.any isLineTerminator) 0 cs).getD cs := by
  induction cs with
  | nil => rfl
  | cons c cs ih =>
      cases terminator : isLineTerminator c with
      | true => simp [through, terminator]
      | false =>
          rw [List.takeWhile_cons_of_pos (by simp [terminator]), ih]
          cases ends : through (·.head?.any isLineTerminator) 0 cs <;>
            simp [through, terminator, ends]

end Piece

namespace Enclosure

/-- **What follows an opening** is searched for the closing, under every goal. -/
theorem scan_append (options : Options) (goal : Goal) (e : Enclosure) (cs : List Char) :
    Piece.scan options goal (e.opening ++ cs) = e.piece cs := by
  cases e with
  | doubleQuoted =>
      rw [opening, List.singleton_append, (Production.Applies.string (.inl rfl)).scan_eq,
        Production.run, Piece.stringLiteral, Piece.stringBody_eq_through]
      rfl
  | singleQuoted =>
      rw [opening, List.singleton_append, (Production.Applies.string (.inr rfl)).scan_eq,
        Production.run, Piece.stringLiteral, Piece.stringBody_eq_through]
      rfl
  | block =>
      rw [opening, List.cons_append, List.singleton_append,
        Production.Applies.multiLineComment.scan_eq, Production.run, Piece.multiLineComment,
        List.drop_succ_cons, List.drop_succ_cons, List.drop_zero, Piece.commentBody_eq_through]
      rfl
  | line =>
      have slash : isLineTerminator '/' = false := by decide
      have opened : ('/' :: '/' :: cs).takeWhile (!isLineTerminator ·) =
          '/' :: '/' :: (through line.closes line.width cs).getD cs := by
        simp only [List.takeWhile_cons, slash, Piece.takeWhile_eq_through cs]
        rfl
      rw [opening, List.cons_append, List.singleton_append,
        Production.Applies.singleLineComment.scan_eq, Production.run, Piece.singleLineComment,
        opened, piece]
      cases through line.closes line.width cs <;> rfl

end Enclosure

namespace Lexer

/-- **Comments and strings end at their first closing.** After any commands, let `cs` be the
text to be tokenized first, which is all the unread text where trivia are captured. Let a
quote or the opening of a comment stand first in it. If a closing follows, the token is
the string or comment through the first one, of which a comment up to the end of its line
takes nothing. If none follows, the token takes all of `cs`: it is an error, or the comment
on the last line. The goal plays no part, and of the text between nothing counts. -/
theorem enclosures_end_first (name source : String) (options : Options)
    (commands : List Command) (goal : Goal) (short : source.utf8ByteSize < counterBound - 1) :
    ∃ replies lx, (create name source options).drive commands = .ok (replies, lx) ∧
      ∃ cs token after, lx.PullsAt options goal cs token after ∧
        ∀ e : Enclosure, e.opening <+: cs →
          (∃ index, FirstFrom e.closes e.opening.length cs index ∧
            token.Carries ⟨cs.take (index + e.width), .ok e.kind⟩ ∧
            after.place.rest = cs.drop (index + e.width)) ∨
          (NowhereFrom e.closes e.opening.length cs ∧ token.Carries ⟨cs, e.unclosed⟩ ∧
            after.place.rest = []) := by
  obtain ⟨replies, lx, run, cs, token, after, pull, carries⟩ :=
    exists_pull name options commands goal short
  refine ⟨replies, lx, run, cs, token, after, pull, ?_⟩
  rintro e ⟨rest, rfl⟩
  rw [e.scan_append options goal rest] at carries
  have split := pull.split
  rcases e.piece_cases rest with ⟨index, first, piece⟩ | ⟨nowhere, piece⟩
  · rw [piece] at carries
    refine .inl ⟨index, first, carries, ?_⟩
    rw [carries.lexeme] at split
    conv at split => lhs; rw [← List.take_append_drop (index + e.width) (e.opening ++ rest)]
    exact (List.append_cancel_left split).symm
  · rw [piece] at carries
    refine .inr ⟨nowhere, carries, ?_⟩
    rw [carries.lexeme] at split
    exact List.self_eq_append_right.1 split

/-- The star of the opening closes nothing, and what follows the closing is left. -/
theorem enclosures_end_first_overlap :
    "a/*/**/*/".utf8ByteSize < counterBound - 1 ∧
      ∃ replies lx, (create "a.js" "a/*/**/*/" {}).drive
          [.ask (.next .div), .ask (.peek .regExp)] = .ok (replies, lx) ∧
        ∃ token after, lx.next .templateTail = .ok (token, after) ∧
          FirstFrom Enclosure.block.closes 2 "/*/**/*/".toList 4 ∧
          token.kind = .multiLineComment ∧ token.lexeme = "/*/**/" ∧ token.error = none ∧
          after.place.rest = ['*', '/'] := by
  obtain ⟨replies, lx, run, cs, token, after, pull, ends⟩ := enclosures_end_first "a.js"
    "a/*/**/*/" {} [.ask (.next .div), .ask (.peek .regExp)] .templateTail (by decide)
  obtain ⟨_, _, evaluated, _, _, pulled, text⟩ :
      ∃ replies lx, (create "a.js" "a/*/**/*/" {}).drive
          [.ask (.next .div), .ask (.peek .regExp)] = .ok (replies, lx) ∧
        ∃ token after, lx.next .templateTail = .ok (token, after) ∧
          token.lexeme.toList ++ after.place.rest = "/*/**/*/".toList :=
    ⟨_, _, rfl, _, _, rfl, by decide⟩
  rw [evaluated] at run
  cases run
  have same := pull.pulled
  rw [pulled] at same
  cases same
  have text : cs = "/*/**/*/".toList := pull.split.trans text
  subst text
  have four : FirstFrom Enclosure.block.closes 2 "/*/**/*/".toList 4 := by
    refine ⟨by decide, by decide, ?_⟩
    intro i le early
    obtain rfl | rfl : i = 2 ∨ i = 3 := by omega
    · decide
    · decide
  rcases ends .block (by decide) with ⟨index, first, carries, left⟩ | ⟨nowhere, -⟩
  · obtain rfl : index = 4 := first.unique four
    refine ⟨by decide, _, _, evaluated, _, _, pulled, four, carries.kind, ?_, carries.error, left⟩
    exact String.toList_inj.1 carries.lexeme
  · have closed := nowhere 4 (by decide)
    rw [four.holds] at closed
    cases closed

end Lexer

end GoalLexer
