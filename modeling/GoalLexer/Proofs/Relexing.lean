import GoalLexer.Proofs.Progress
import GoalLexer.Proofs.Repetition

/-!
# Lexemes lex to themselves again

The tests by which a production is chosen look past the lexeme, and what they saw there
may be gone. The end of a line leaves them as they were: it continues no comment opening,
no number and no punctuator, and all that made them hold is in the lexeme. So the
production is chosen again (`Production.choose_repeats`), and a scan repeats
(`Piece.scan_repeats`).

For a lexer this says that the lexeme of every token it returns, with nothing or the end
of a line behind it, gives the token again in a fresh lexer: `Lexer.lexemes_relex`.
-/

set_option autoImplicit false

namespace GoalLexer

/-! ## The choice of a production -/

namespace Piece

/-- A beginning cut off by the end of a line starts no number where the text does not. -/
theorem startsUnsigned_cut {cs taken r : List Char} (cut : taken <+: cs) (ends : LineEnd r)
    (absent : startsUnsigned cs = false) : startsUnsigned (taken ++ r) = false := by
  cases taken with
  | nil =>
      cases r with
      | nil => rfl
      | cons c r =>
          have inline : Inline fun c => isDecimalDigit c || c == '.' := inline_of_four (by decide)
          have neither := inline c (ends c rfl)
          rw [Bool.or_eq_false_iff] at neither
          simp [startsUnsigned, neither]
  | cons c taken =>
      obtain ⟨more, rfl⟩ := cut
      simp only [List.cons_append, startsUnsigned, Bool.or_eq_false_iff, Bool.and_eq_false_iff]
        at absent ⊢
      refine ⟨absent.1, absent.2.imp_right fun stops => ?_⟩
      exact any_head?_cut (List.prefix_append taken more) ends (inline_isDigitInBase 10) stops

theorem startsNumber_cut {signed : Bool} {c : Char} {cs taken r : List Char} (cut : taken <+: cs)
    (ends : LineEnd r) (absent : startsNumber signed (c :: cs) = false) :
    startsNumber signed (c :: (taken ++ r)) = false := by
  simp only [startsNumber, Bool.or_eq_false_iff, Bool.and_eq_false_iff] at absent ⊢
  obtain ⟨unsigned, sign⟩ := absent
  exact ⟨startsUnsigned_cut (List.cons_prefix_cons.2 ⟨rfl, cut⟩) ends unsigned,
    sign.imp_right (startsUnsigned_cut cut ends)⟩

/-- A piece takes what has been read before it went on. -/
theorem Extends.first_isPrefix {read first rest taken : List Char} {piece : Piece}
    (ext : Extends (read ++ first) rest piece) (split : piece.lexeme = read ++ taken) :
    first <+: taken := by
  have kept := ext.keeps
  rw [split] at kept
  exact (List.prefix_append_right_inj read).1 kept

theorem startsUnsigned_of_unsignedNumber {sign cs taken : List Char}
    (starts : startsUnsigned cs = true) (split : (unsignedNumber sign cs).lexeme = sign ++ taken) :
    startsUnsigned taken = true := by
  cases cs with
  | nil => cases starts
  | cons c cs =>
      simp only [startsUnsigned, Bool.or_eq_true, Bool.and_eq_true, beq_iff_eq] at starts
      rw [unsignedNumber_eq] at split
      rcases starts with digit | ⟨rfl, next⟩
      · cases found : announced (c :: cs) with
        | some base =>
            rw [found] at split
            apply startsUnsigned_of_isPrefix ((radixDigits_extends _ _ _).first_isPrefix split)
            simp [startsUnsigned, digit]
        | none =>
            rw [found] at split
            apply startsUnsigned_of_isPrefix ((fraction_extends _ _).first_isPrefix split)
            simp [startsUnsigned, digit]
      · -- the point and the digits behind it are read before the exponent
        have stops : isDecimalDigit '.' = false := by decide
        have same : decimal sign ('.' :: cs) =
            exponent (sign ++ '.' :: cs.takeWhile isDecimalDigit) (cs.dropWhile isDecimalDigit) := by
          simp [decimal, oneIf, stops]
        rw [announced_of_head?_ne (by simp)] at split
        dsimp only at split
        rw [same] at split
        apply startsUnsigned_of_isPrefix ((exponent_extends _ _).first_isPrefix split)
        cases cs with
        | nil => cases next
        | cons d cs =>
            have digit : isDecimalDigit d = true := by simpa using next
            simp [startsUnsigned, digit]

/-- A number starts again where its lexeme does. -/
theorem startsNumber_number {signed : Bool} {cs : List Char} (starts : startsNumber signed cs = true)
    (r : List Char) : startsNumber signed ((number cs).lexeme ++ r) = true := by
  cases cs with
  | nil => cases starts
  | cons c cs =>
      simp only [startsNumber, Bool.or_eq_true, Bool.and_eq_true, beq_iff_eq] at starts
      rcases starts with unsigned | ⟨⟨isSigned, rfl⟩, unsigned⟩
      · have plain : c ≠ '-' := by
          rintro rfl
          have stops : isDecimalDigit '-' = false := by decide
          simp [startsUnsigned, stops] at unsigned
        have same : number (c :: cs) = unsignedNumber [] (c :: cs) := by
          simp [number, oneIf, plain]
        have again := startsUnsigned_of_isPrefix (List.prefix_append _ r)
          (startsUnsigned_of_unsignedNumber unsigned (List.nil_append _).symm)
        rw [same]
        exact startsNumber_of_startsUnsigned again
      · have same : number ('-' :: cs) = unsignedNumber ['-'] cs := rfl
        obtain ⟨taken, split⟩ := (unsignedNumber_extends ['-'] cs).keeps
        have again := startsUnsigned_of_isPrefix (List.prefix_append _ r)
          (startsUnsigned_of_unsignedNumber unsigned split.symm)
        rw [same, ← split]
        simp [startsNumber, isSigned, again]

end Piece

/-- Text without line terminators does not reach into the end of a line. -/
theorem isPrefix_of_lineEnd {text lexeme r : List Char}
    (plain : text.all (!isLineTerminator ·) = true) (ends : LineEnd r)
    (starts : text <+: lexeme ++ r) : text <+: lexeme := by
  rcases Nat.le_total text.length lexeme.length with fits | longer
  · exact List.prefix_of_prefix_length_le starts (List.prefix_append lexeme r) fits
  · obtain ⟨more, rfl⟩ := List.prefix_of_prefix_length_le (List.prefix_append lexeme r) starts longer
    cases more with
    | nil => exact (List.append_nil lexeme).symm ▸ List.prefix_rfl
    | cons c more =>
        obtain ⟨rest, rfl⟩ := (List.prefix_append_right_inj lexeme).1 starts
        have terminator := ends c rfl
        simp [terminator] at plain

/-- The end of a line makes no punctuator longer. -/
theorem punctuator?_lineEnd (cs : List Char) {r : List Char} (ends : LineEnd r) :
    punctuator? (cs ++ r) = punctuator? cs := by
  have plain : ∀ text ∈ punctuators, text.toList.all (!isLineTerminator ·) = true := by decide
  have tested : ∀ text ∈ punctuators,
      text.toList.isPrefixOf (cs ++ r) = text.toList.isPrefixOf cs := by
    intro text listed
    rw [Bool.eq_iff_iff, List.isPrefixOf_iff_prefix, List.isPrefixOf_iff_prefix]
    exact ⟨isPrefix_of_lineEnd (plain text listed) ends,
      fun starts => starts.trans (List.prefix_append cs r)⟩
  unfold punctuator?
  rw [← List.head?_filter, ← List.head?_filter, List.filter_congr tested]

/-- A punctuator is the longest one in itself. -/
theorem punctuator?_toList : ∀ text ∈ punctuators, punctuator? text.toList = some text := by
  decide

/-- A character that does not stand first does not stand first in a beginning cut off by
the end of a line. -/
theorem head?_ne_cut {c : Char} {cs taken r : List Char} (cut : taken <+: cs) (ends : LineEnd r)
    (plain : isLineTerminator c = false) (absent : cs.head? ≠ some c) :
    (taken ++ r).head? ≠ some c := by
  cases taken with
  | nil =>
      intro first
      rw [ends c first] at plain
      cases plain
  | cons d taken =>
      obtain ⟨more, rfl⟩ := cut
      exact absent

namespace Production

variable (options : Options) (goal : Goal)

/-- The opening of a comment is part of it. -/
theorem opening_isPrefix_run (cs : List Char) :
    ['/', '/'] <+: (run options .singleLineComment ('/' :: '/' :: cs)).lexeme ∧
      ['/', '*'] <+: (run options .multiLineComment ('/' :: '*' :: cs)).lexeme := by
  constructor
  · have solid : isLineTerminator '/' = false := by decide
    simp [run, Piece.singleLineComment, solid]
  · rw [run, Piece.multiLineComment]
    split
    · exact ⟨_, rfl⟩
    · exact ⟨cs, rfl⟩

/-- **The production is chosen again.** -/
theorem choose_repeats (c : Char) (cs : List Char) {r : List Char} (ends : LineEnd r) :
    choose options goal ((Piece.scan options goal (c :: cs)).lexeme ++ r) =
      choose options goal (c :: cs) := by
  have takes := Piece.scan_takes options goal (List.cons_ne_nil c cs)
  obtain ⟨d, taken, split⟩ := List.exists_cons_of_ne_nil takes.nonempty
  have cut := takes.isPrefix
  rw [split, List.cons_prefix_cons] at cut
  obtain ⟨rfl, cut⟩ := cut
  have applies := choose_applies options goal (d :: cs)
  unfold Piece.scan at split ⊢
  generalize choose options goal (d :: cs) = production at applies split ⊢
  apply Applies.choose_eq
  rw [split, List.cons_append]
  cases applies with
  | whiteSpace white => exact .whiteSpace white
  | lineTerminator terminator => exact .lineTerminator terminator
  | singleLineComment =>
      obtain ⟨more, opened⟩ := (opening_isPrefix_run options _).1
      obtain rfl := (List.cons.inj (opened.trans split)).2
      exact .singleLineComment
  | multiLineComment =>
      obtain ⟨more, opened⟩ := (opening_isPrefix_run options _).2
      obtain rfl := (List.cons.inj (opened.trans split)).2
      exact .multiLineComment
  | number starts =>
      have again := Piece.startsNumber_number starts r
      change Piece.startsNumber _ ((run options .number (d :: cs)).lexeme ++ r) = true at again
      rw [split] at again
      exact .number again
  | @punctuator _ text noNumber found =>
      have chars : text.toList = d :: taken := split
      refine .punctuator (Piece.startsNumber_cut cut ends noNumber) ?_
      rw [← List.cons_append, ← chars, punctuator?_lineEnd _ ends]
      exact punctuator?_toList text (List.mem_of_find?_eq_some found)
  | word starts => exact .word starts
  | template => exact .template
  | string either => exact .string either
  | templateContinuation resumes => exact .templateContinuation resumes
  | division divides notLine notBlock =>
      exact .division divides (head?_ne_cut cut ends (by decide) notLine)
        (head?_ne_cut cut ends (by decide) notBlock)
  | rightBrace closes => exact .rightBrace closes
  | regex opens notLine notBlock =>
      exact .regex opens (head?_ne_cut cut ends (by decide) notLine)
        (head?_ne_cut cut ends (by decide) notBlock)
  | unexpected starts => exact .unexpected starts

end Production

/-- **A scan repeats.** The lexeme of a piece, with nothing or the end of a line behind
it, is scanned to the same piece, an error alone with nothing behind it. -/
theorem Piece.scan_repeats (options : Options) (goal : Goal) : Repeats (scan options goal) := by
  intro c cs r followed
  have chosen := Production.choose_repeats options goal c cs followed.ends
  have again := Production.run_repeats options (Production.choose options goal (c :: cs)) c cs r
    followed
  unfold scan at chosen ⊢
  rw [chosen]
  exact again

/-! ## Tokens -/

/-- The goal under which a request pulls or looks. -/
def Request.goal : Request → Goal
  | next goal => goal
  | peek goal => goal
  | tokenize goal => goal
  | item => .div

namespace Token

/-- A fresh lexer gives the token again: a well-formed one from its lexeme and any text
behind it that is empty or starts with a line terminator, an error from its lexeme
alone. -/
structure Relexes (options : Options) (goal : Goal) (t : Token) : Prop where
  wellFormed : t.isError = false → ∀ name r : String, LineEnd r.toList →
    (t.lexeme ++ r).utf8ByteSize < counterBound - 1 →
    ∃ u after, (Lexer.create name (t.lexeme ++ r) options).next goal = .ok (u, after) ∧
      u.kind = t.kind ∧ u.lexeme = t.lexeme
  failed : t.isError = true → ∃ error, t.error = some error ∧ ∀ name : String,
    t.lexeme.utf8ByteSize < counterBound - 1 →
    ∃ u after, (Lexer.create name t.lexeme options).next goal = .ok (u, after) ∧
      u.isError = true ∧ u.lexeme = t.lexeme ∧ u.error = some error.repeated

end Token

namespace Piece

theorem repeated_kind (piece : Piece) : piece.repeated.kind = piece.kind := by
  obtain ⟨lexeme, outcome⟩ := piece
  cases outcome with
  | ok kind => rfl
  | error error => rfl

theorem repeated_error? (piece : Piece) :
    piece.repeated.error? = piece.error?.map LexError.repeated := by
  obtain ⟨lexeme, outcome⟩ := piece
  cases outcome with
  | ok kind => rfl
  | error error => rfl

end Piece

namespace Place

variable {options : Options} {goal : Goal} {p : Place}

/-- The lexeme at the start of a text gives the piece again. -/
theorem piece_start_repeats (unread : p.rest ≠ []) {r : List Char}
    (followed : (p.piece options goal).Followed r) :
    (start ((p.piece options goal).lexeme ++ r)).piece options goal =
      (p.piece options goal).repeated := by
  unfold Place.piece at followed ⊢
  obtain ⟨c, cs, text⟩ := List.exists_cons_of_ne_nil unread
  rw [text] at followed ⊢
  exact Piece.scan_repeats options goal c cs r followed

/-- A fresh lexer over the lexeme gives the token at the place again. -/
theorem exists_next_of_followed (kept : p.isSkipped options goal = false) (unread : p.rest ≠ [])
    (name other : String) {r : String} (followed : (p.piece options goal).Followed r.toList)
    (short : ((p.token options goal name).lexeme ++ r).utf8ByteSize < counterBound - 1) :
    ∃ u after,
      (Lexer.create other ((p.token options goal name).lexeme ++ r) options).next goal =
        .ok (u, after) ∧
      u.kind = (p.token options goal name).kind ∧ u.lexeme = (p.token options goal name).lexeme ∧
      u.error = (p.token options goal name).error.map LexError.repeated := by
  have again := piece_start_repeats unread followed
  rw [← token_lexeme options goal name, ← String.toList_append] at again
  obtain ⟨after, pulled, -⟩ := (Lexer.create_coherent other options short).next goal
  have unskipped : (start ((p.token options goal name).lexeme ++ r).toList).isSkipped options goal =
      false := by
    rw [isSkipped, again, Piece.repeated_kind]
    exact kept
  have found : (Lexer.create other ((p.token options goal name).lexeme ++ r) options).reader.token
      goal = (start ((p.token options goal name).lexeme ++ r).toList).token options goal other :=
    congrArg (token options goal other) (wanted_of_not_isSkipped options goal unskipped)
  refine ⟨_, after, pulled, ?_⟩
  rw [found, token, again]
  exact ⟨Piece.repeated_kind _, rfl, Piece.repeated_error? _⟩

/-- **A token lexes to itself again.** -/
theorem relexes (kept : p.isSkipped options goal = false) (unread : p.rest ≠ []) (name : String) :
    (p.token options goal name).Relexes options goal := by
  have isError : (p.token options goal name).isError = (p.token options goal name).error.isSome :=
    isError_token
  constructor
  · intro wellFormed other r ends short
    have followed : (p.piece options goal).Followed r.toList := by
      refine ⟨ends, ?_⟩
      intro error failed
      rw [isError] at wellFormed
      simp [token, Piece.error?, failed] at wellFormed
    obtain ⟨u, after, pulled, kind, lexeme, -⟩ :=
      exists_next_of_followed kept unread name other followed short
    exact ⟨u, after, pulled, kind, lexeme⟩
  · intro failed
    have caused := isError.symm.trans failed
    obtain ⟨error, cause⟩ := Option.isSome_iff_exists.1 caused
    refine ⟨error, cause, ?_⟩
    intro other short
    have followed : (p.piece options goal).Followed "".toList := ⟨lineEnd_nil, fun _ _ => rfl⟩
    have whole : (p.token options goal name).lexeme ++ "" = (p.token options goal name).lexeme :=
      String.append_empty
    rw [← whole] at short
    obtain ⟨u, after, pulled, kind, lexeme, mapped⟩ :=
      exists_next_of_followed kept unread name other followed short
    rw [whole] at pulled
    refine ⟨u, after, pulled, ?_, lexeme, ?_⟩
    · rw [Token.isError, kind]
      exact failed
    · rw [mapped, cause]
      rfl

end Place

namespace Lexer

variable {name source : String} {options : Options} {lx : Lexer}

/-- The tokens under a goal lex to themselves, the end of the input apart. -/
def AllRelex (options : Options) (goal : Goal) (tokens : List Token) : Prop :=
  ∀ t ∈ tokens, t.isEndOfInput = false → t.Relexes options goal

theorem Aligned.token_relexes (aligned : Aligned name source options lx) {goal : Goal}
    (goesOn : (lx.reader.token goal).isEndOfInput = false) :
    (lx.reader.token goal).Relexes options goal := by
  have sameOptions : lx.reader.options = options := by rw [reader_options, aligned.options]
  have kept := lx.reader.place.isSkipped_wanted lx.reader.options goal
  have unread : (lx.reader.next goal).rest ≠ [] := by
    intro finished
    rw [Reader.token, (Place.isEndOfInput_iff _ _ _ _).2 finished] at goesOn
    cases goesOn
  rw [← sameOptions]
  exact Place.relexes kept unread _

theorem Drains.allRelex {goal : Goal} {last : Lexer} {tokens : List Token}
    (drains : Drains goal lx tokens last) (aligned : Aligned name source options lx) :
    AllRelex options goal tokens := by
  induction drains with
  | finish pulled ended =>
      intro t listed
      cases listed
  | pull pulled goesOn drains ih =>
      obtain ⟨_, again, alignedNext, -⟩ := aligned.next goal
      rw [pulled] at again
      cases again
      intro t listed
      rcases List.mem_cons.1 listed with rfl | later
      · exact aligned.token_relexes
      · exact ih alignedNext t later

/-- **One request** returns tokens that lex to themselves again. -/
theorem Aligned.serve_relexes (aligned : Aligned name source options lx) (request : Request) :
    ∃ reply after, lx.serve request = .ok (reply, after) ∧
      AllRelex options request.goal reply.returned := by
  cases request with
  | next goal =>
      obtain ⟨after, pulled, -⟩ := aligned.next goal
      refine ⟨_, after, serve_next pulled, ?_⟩
      intro t listed
      rw [List.mem_singleton.1 listed]
      exact aligned.token_relexes
  | peek goal =>
      obtain ⟨after, looked, -⟩ := aligned.peek goal
      refine ⟨_, after, serve_peek looked, ?_⟩
      intro t listed
      rw [List.mem_singleton.1 listed]
      exact aligned.token_relexes
  | tokenize goal =>
      obtain ⟨tokens, last, run, drains, -⟩ := aligned.exists_drains goal
      exact ⟨_, last, serve_tokenize run, drains.allRelex aligned⟩
  | item =>
      obtain ⟨after, pulled, -⟩ := aligned.next .div
      refine ⟨_, after, serve_item pulled, ?_⟩
      intro t listed
      simp only [Reply.returned] at listed
      split at listed
      · cases listed
      · rw [List.mem_singleton.1 listed]
        exact aligned.token_relexes

/-- **Lexemes lex to themselves again.** Whatever a caller has done with a lexer, every
token that a request then returns, the end of the input apart, is given again by a fresh
lexer over its lexeme. -/
theorem lexemes_relex (name source : String) (options : Options) (commands : List Command)
    (short : source.utf8ByteSize < counterBound - 1) :
    ∃ replies lx, (create name source options).drive commands = .ok (replies, lx) ∧
      ∀ request, ∃ reply after, lx.serve request = .ok (reply, after) ∧
        ∀ t ∈ reply.returned, t.isEndOfInput = false → t.Relexes options request.goal := by
  obtain ⟨replies, lx, run, aligned⟩ := (create_aligned name options short).drive commands
  exact ⟨replies, lx, run, aligned.serve_relexes⟩

/-- A name is lexed again with a line separator behind it, and a regular expression that
the end of its line cut off has no end when it stands alone. -/
theorem lexemes_relex_cut_regex :
    "x/a\n".utf8ByteSize < counterBound - 1 ∧
      ∃ replies lx word regex line after,
        (create "a.js" "x/a\n" {}).drive [.ask (.peek .div)] = .ok (replies, lx) ∧
        lx.serve (.tokenize .regExp) = .ok (.tokens [word, regex, line], after) ∧
        regex.lexeme = "/a" ∧ regex.error = some .regexLineTerminator ∧
        (∃ u last, (create "b.js" "x\u2028/a" {}).next .regExp = .ok (u, last) ∧
          u.kind = .identifierName ∧ u.lexeme = "x") ∧
        ∃ u last, (create "b.js" "/a" {}).next .regExp = .ok (u, last) ∧
          u.isError = true ∧ u.lexeme = "/a" ∧ u.error = some .unterminatedRegex := by
  obtain ⟨_, _, run, served⟩ := lexemes_relex "a.js" "x/a\n" {} [.ask (.peek .div)] (by decide)
  obtain ⟨_, _, replied, relex⟩ := served (.tokenize .regExp)
  cases run
  cases replied
  refine ⟨by decide, _, _, _, _, _, _, rfl, rfl, by decide, by decide, ?_, ?_⟩
  · obtain ⟨u, last, pulled, kind, lexeme⟩ :=
      (relex _ List.mem_cons_self (by decide)).wellFormed (by decide) "b.js" "\u2028/a"
        (by rintro _ ⟨⟩; decide) (by decide)
    exact ⟨u, last, pulled, kind, lexeme⟩
  · obtain ⟨error, cause, again⟩ :=
      (relex _ (List.mem_cons_of_mem _ List.mem_cons_self) (by decide)).failed (by decide)
    cases cause
    exact again "b.js" (by decide)

end Lexer

end GoalLexer
