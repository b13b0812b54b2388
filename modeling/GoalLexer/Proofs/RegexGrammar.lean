import Mathlib.Computability.Language
import GoalLexer.Proofs.Pulled

/-!
# Regular expression literals are their grammar

The body of a regular expression literal is a sequence of items: escapes, classes in
brackets, and characters that stand for themselves. `RegexGrammar.literal` is the language
of literals without their flags, and `RegexGrammar.unclosed` that of the texts which can
be read behind the opening slash before the closing one.

The scanner is an automaton with two states, outside and inside of brackets. `Leads` is
the run of that automaton over a text. Runs that end outside are the bodies, and all runs
are the unclosed texts (`Leads.mem`, `leads_of_mem_body`, `leads_of_mem_content`). A run
goes on until the closing slash or an `Obstacle` (`exists_leads`), and what stops it
decides the piece: `Piece.regex_of_closed` and `Piece.regex_of_obstacle`.
`Lexer.pulls_regex_literals` is the statement for lexers.
-/

set_option autoImplicit false

open scoped Computability

namespace GoalLexer

namespace RegexGrammar

/-- A backslash with the character that it takes along, which ends no line. -/
def escape : Language Char :=
  {text | ∃ c, isLineTerminator c = false ∧ text = ['\\', c]}

/-- A character that stands for itself: it is not special here, ends no line and is no
forbidden control. -/
def plain (special : List Char) : Language Char :=
  {text | ∃ c, c ∉ special ∧ isLineTerminator c = false ∧ isRegexForbidden c = false ∧ text = [c]}

/-- What may stand in brackets. -/
def content : Language Char := (escape + plain [']', '\\'])∗

def brackets : Language Char := {['[']} * (content * {[']']})

def item : Language Char := escape + brackets + plain ['/', '[', '\\']

def body : Language Char := item∗

/-- A literal without its flags. -/
def literal : Language Char := {['/']} * (body * {['/']})

/-- A body, behind which brackets may have been opened and not closed. -/
def unclosed : Language Char := body + body * ({['[']} * content)

/-- What a body cannot go on with: how much of it an error takes along, and the error. -/
inductive Obstacle : (rest taken : List Char) → LexError → Prop
  | lineTerminator {c : Char} (more : List Char) (ends : isLineTerminator c = true) :
      Obstacle (c :: more) [] .regexLineTerminator
  | escapedLineTerminator {c : Char} (more : List Char) (ends : isLineTerminator c = true) :
      Obstacle ('\\' :: c :: more) ['\\'] .regexLineTerminator
  | forbidden {c : Char} (more : List Char) (forbidden : isRegexForbidden c = true) :
      Obstacle (c :: more) [c] (.invalidRegexChar c)
  | endOfInput : Obstacle [] [] .unterminatedRegex
  | escapedEnd : Obstacle ['\\'] ['\\'] .unterminatedRegex

/-! ## Runs of the automaton -/

/-- Reading a text leads from inside or outside of brackets to inside or outside. -/
inductive Leads : Bool → List Char → Bool → Prop
  | done (inBrackets : Bool) : Leads inBrackets [] inBrackets
  | escape {b last : Bool} {c : Char} {text : List Char} (goes : isLineTerminator c = false)
      (leads : Leads b text last) : Leads b ('\\' :: c :: text) last
  | plain {b last : Bool} {c : Char} {text : List Char} (unescaped : c ≠ '\\')
      (slash : c = '/' → b = true) (goes : isLineTerminator c = false)
      (allowed : isRegexForbidden c = false)
      (leads : Leads (Piece.bracketAfter b c) text last) : Leads b (c :: text) last

theorem Leads.trans {b mid last : Bool} {text more : List Char} (first : Leads b text mid)
    (second : Leads mid more last) : Leads b (text ++ more) last := by
  induction first with
  | done => exact second
  | escape goes _ ih => exact .escape goes (ih second)
  | plain unescaped slash goes allowed _ ih =>
      exact .plain unescaped slash goes allowed (ih second)

/-- What stays on one side of the brackets can be repeated. -/
theorem leads_of_mem_kstar {l : Language Char} {b : Bool} (each : ∀ text ∈ l, Leads b text b)
    {text : List Char} (listed : text ∈ l∗) : Leads b text b := by
  obtain ⟨items, rfl, all⟩ := Language.mem_kstar.1 listed
  clear listed
  induction items with
  | nil => exact .done b
  | cons item items ih =>
      have first := each item (all item List.mem_cons_self)
      exact first.trans (ih fun text listed => all text (List.mem_cons_of_mem item listed))

theorem leads_of_mem_content {text : List Char} (listed : text ∈ content) :
    Leads true text true := by
  refine leads_of_mem_kstar ?_ listed
  rintro text (⟨c, goes, rfl⟩ | ⟨c, special, goes, allowed, rfl⟩)
  · exact .escape goes (.done true)
  · simp only [List.mem_cons, List.not_mem_nil, or_false, not_or] at special
    refine .plain special.2 (fun _ => rfl) goes allowed ?_
    have stays : Piece.bracketAfter true c = true := by simp [Piece.bracketAfter, special]
    rw [stays]
    exact .done true

/-- **Bodies** are read from outside of brackets to outside. -/
theorem leads_of_mem_body {text : List Char} (listed : text ∈ body) : Leads false text false := by
  refine leads_of_mem_kstar ?_ listed
  rintro text ((⟨c, goes, rfl⟩ | bracketed) | ⟨c, special, goes, allowed, rfl⟩)
  · exact .escape goes (.done false)
  · obtain ⟨_, rfl, _, ⟨inside, listed, _, rfl, rfl⟩, rfl⟩ := bracketed
    have closes : Leads true [']'] false :=
      .plain (by decide) (by decide) (by decide) (by decide) (.done false)
    have through : Leads true (inside ++ [']']) false := (leads_of_mem_content listed).trans closes
    exact .plain (by decide) (by decide) (by decide) (by decide) through
  · simp only [List.mem_cons, List.not_mem_nil, or_false, not_or] at special
    obtain ⟨slash, opens, unescaped⟩ := special
    refine .plain unescaped (fun isSlash => absurd isSlash slash) goes allowed ?_
    have stays : Piece.bracketAfter false c = false := by simp [Piece.bracketAfter, opens]
    rw [stays]
    exact .done false

/-- What leads from outside of brackets to outside, or to inside of brackets that are not
closed. -/
def outside (last : Bool) : Language Char := body * if last then {['[']} * content else 1

/-- What leads from inside of brackets to outside, or to inside of the same brackets or of
other ones. -/
def inside (last : Bool) : Language Char :=
  content * ({[']']} * outside last + if last then 1 else 0)

theorem append_mem_kstar_mul {l m : Language Char} {first text : List Char} (one : first ∈ l)
    (listed : text ∈ l∗ * m) : first ++ text ∈ l∗ * m := by
  obtain ⟨_, ⟨items, rfl, all⟩, rest, tail, rfl⟩ := Language.mem_mul.1 listed
  have more : (first :: items).flatten ∈ l∗ := by
    apply Language.join_mem_kstar
    simpa [one] using all
  simpa using Language.append_mem_mul more tail

/-- An opening bracket leads inside. -/
theorem cons_mem_outside {last : Bool} {text : List Char} (listed : text ∈ inside last) :
    '[' :: text ∈ outside last := by
  obtain ⟨chars, inBrackets, _, ⟨_, rfl, rest, more, rfl⟩ | ended, rfl⟩ :=
    Language.mem_mul.1 listed
  · have bracketed : '[' :: (chars ++ [']']) ∈ item :=
      .inl (.inr ⟨_, rfl, _, ⟨chars, inBrackets, _, rfl, rfl⟩, rfl⟩)
    have joined : '[' :: (chars ++ [']']) ++ rest ∈ outside last :=
      append_mem_kstar_mul bracketed more
    simpa using joined
  · cases last with
    | false => exact absurd ended (Language.notMem_zero _)
    | true =>
        cases ended
        refine ⟨[], Language.nil_mem_kstar _, _, ⟨_, rfl, chars, inBrackets, rfl⟩, ?_⟩
        simp

/-- A closing bracket leads outside. -/
theorem cons_mem_inside {last : Bool} {text : List Char} (listed : text ∈ outside last) :
    ']' :: text ∈ inside last :=
  ⟨[], Language.nil_mem_kstar _, _, .inl ⟨_, rfl, text, listed, rfl⟩, rfl⟩

/-- **The runs of the automaton** are in the grammar. -/
theorem Leads.mem {b last : Bool} {text : List Char} (leads : Leads b text last) :
    text ∈ if b then inside last else outside last := by
  induction leads with
  | done b =>
      cases b with
      | false => exact ⟨[], Language.nil_mem_kstar _, [], rfl, rfl⟩
      | true => exact ⟨[], Language.nil_mem_kstar _, [], .inr rfl, rfl⟩
  | @escape b last c text goes _ ih =>
      cases b with
      | false => exact append_mem_kstar_mul (.inl (.inl ⟨c, goes, rfl⟩)) ih
      | true => exact append_mem_kstar_mul (.inl ⟨c, goes, rfl⟩) ih
  | @plain b last c text unescaped slash goes allowed _ ih =>
      cases b with
      | false =>
          by_cases opens : c = '['
          · subst opens
            exact cons_mem_outside ih
          · have stays : Piece.bracketAfter false c = false := by simp [Piece.bracketAfter, opens]
            have notSlash : c ≠ '/' := fun isSlash => absurd (slash isSlash) (by decide)
            rw [stays] at ih
            exact append_mem_kstar_mul
              (.inr ⟨c, by simp [opens, notSlash, unescaped], goes, allowed, rfl⟩) ih
      | true =>
          by_cases closes : c = ']'
          · subst closes
            exact cons_mem_inside ih
          · have stays : Piece.bracketAfter true c = true := by simp [Piece.bracketAfter, closes]
            rw [stays] at ih
            exact append_mem_kstar_mul
              (.inr ⟨c, by simp [closes, unescaped], goes, allowed, rfl⟩) ih

theorem leads_false_iff {text : List Char} : Leads false text false ↔ text ∈ body := by
  refine ⟨fun leads => ?_, leads_of_mem_body⟩
  have listed : text ∈ body * 1 := leads.mem
  rwa [mul_one] at listed

theorem exists_leads_iff {text : List Char} :
    (∃ last, Leads false text last) ↔ text ∈ unclosed := by
  constructor
  · rintro ⟨last, leads⟩
    cases last with
    | false => exact .inl (leads_false_iff.1 leads)
    | true => exact .inr leads.mem
  · rintro (listed | ⟨before, listed, _, ⟨_, rfl, chars, inBrackets, rfl⟩, rfl⟩)
    · exact ⟨false, leads_of_mem_body listed⟩
    · have opened : Leads false ('[' :: chars) true :=
        .plain (by decide) (by decide) (by decide) (by decide) (leads_of_mem_content inBrackets)
      exact ⟨true, (leads_of_mem_body listed).trans opened⟩

end RegexGrammar

/-! ## The scanner -/

namespace Piece

open RegexGrammar

theorem regexBody_of_escape (b : Bool) {c : Char} (goes : isLineTerminator c = false)
    (cs : List Char) :
    regexBody b ('\\' :: c :: cs) = ('\\' :: c :: (regexBody b cs).1, (regexBody b cs).2) := by
  have solid : isLineTerminator '\\' = false := by decide
  rw [regexBody.eq_def]
  simp [solid, goes]

theorem regexBody_of_plain {b : Bool} {c : Char} (unescaped : c ≠ '\\')
    (slash : c = '/' → b = true) (goes : isLineTerminator c = false)
    (allowed : isRegexForbidden c = false) (cs : List Char) :
    regexBody b (c :: cs) =
      (c :: (regexBody (bracketAfter b c) cs).1, (regexBody (bracketAfter b c) cs).2) := by
  have goesOn : ¬ (c == '/' && !b) = true := by
    rw [Bool.and_eq_true, beq_iff_eq]
    rintro ⟨isSlash, outside⟩
    simp [slash isSlash] at outside
  rw [regexBody.eq_def]
  simp only [goes, goesOn, unescaped, allowed, beq_iff_eq, Bool.false_eq_true, if_false]

/-- **A run** is read, and the scanner goes on in the state to which it leads. -/
theorem regexBody_of_leads {b last : Bool} {text : List Char} (leads : Leads b text last)
    (rest : List Char) :
    regexBody b (text ++ rest) =
      (text ++ (regexBody last rest).1, (regexBody last rest).2) := by
  induction leads with
  | done => rfl
  | escape goes _ ih =>
      rw [List.cons_append, List.cons_append, regexBody_of_escape _ goes, ih]
      rfl
  | plain unescaped slash goes allowed _ ih =>
      rw [List.cons_append, regexBody_of_plain unescaped slash goes allowed, ih]
      rfl

/-- **A run ends** before a closing slash or before an obstacle. -/
theorem exists_leads (b : Bool) (cs : List Char) :
    ∃ text rest last, cs = text ++ rest ∧ Leads b text last ∧
      ((last = false ∧ rest.head? = some '/') ∨ ∃ taken error, Obstacle rest taken error) := by
  fun_induction regexBody b cs with
  | case1 b => exact ⟨[], [], b, rfl, .done b, .inr ⟨_, _, .endOfInput⟩⟩
  | case2 b c cs ends => exact ⟨[], c :: cs, b, rfl, .done b, .inr ⟨_, _, .lineTerminator cs ends⟩⟩
  | case3 b c cs _ closes =>
      simp only [Bool.and_eq_true, beq_iff_eq, Bool.not_eq_true'] at closes
      obtain ⟨rfl, rfl⟩ := closes
      exact ⟨[], '/' :: cs, false, rfl, .done false, .inl ⟨rfl, rfl⟩⟩
  | case4 b c _ _ escape =>
      rw [beq_iff_eq.1 escape]
      exact ⟨[], ['\\'], b, rfl, .done b, .inr ⟨_, _, .escapedEnd⟩⟩
  | case5 b c _ _ escape escaped cs ends =>
      rw [beq_iff_eq.1 escape]
      exact ⟨[], _, b, rfl, .done b, .inr ⟨_, _, .escapedLineTerminator cs ends⟩⟩
  | case6 b c _ _ escape escaped cs goes _ _ _ ih =>
      obtain ⟨text, rest, last, rfl, leads, stops⟩ := ih
      rw [beq_iff_eq.1 escape]
      exact ⟨'\\' :: escaped :: text, rest, last, rfl, .escape (by simpa using goes) leads, stops⟩
  | case7 b c cs _ _ _ forbidden =>
      exact ⟨[], c :: cs, b, rfl, .done b, .inr ⟨_, _, .forbidden cs forbidden⟩⟩
  | case8 b c cs goes closes escape allowed _ _ _ ih =>
      obtain ⟨text, rest, last, rfl, leads, stops⟩ := ih
      refine ⟨c :: text, rest, last, rfl, ?_, stops⟩
      refine .plain (by simpa using escape) ?_ (by simpa using goes) (by simpa using allowed) leads
      rintro rfl
      simpa using closes

/-- The error for what stops a regular expression. -/
def RegexStop.error? : RegexStop → Option LexError
  | closed => none
  | lineTerminator => some .regexLineTerminator
  | forbidden c => some (.invalidRegexChar c)
  | endOfInput => some .unterminatedRegex

/-- An obstacle stops the scanner in both states. -/
theorem regexBody_of_obstacle (b : Bool) {rest taken : List Char} {error : LexError}
    (obstacle : Obstacle rest taken error) :
    ∃ stop : RegexStop, stop.error? = some error ∧ regexBody b rest = (taken, stop) := by
  have solid : isLineTerminator '\\' = false := by decide
  cases obstacle with
  | lineTerminator more ends =>
      refine ⟨.lineTerminator, rfl, ?_⟩
      rw [regexBody.eq_def]
      simp only [ends, if_true]
  | escapedLineTerminator more ends =>
      refine ⟨.lineTerminator, rfl, ?_⟩
      rw [regexBody.eq_def]
      simp [solid, ends]
  | @forbidden c more forbidden =>
      have other : ∀ d, isRegexForbidden d = false → c ≠ d := by
        rintro d allowed rfl
        rw [forbidden] at allowed
        cases allowed
      have goes : isLineTerminator c = false := by
        simp only [isRegexForbidden, Bool.and_eq_true, Bool.not_eq_true'] at forbidden
        exact forbidden.2
      refine ⟨.forbidden c, rfl, ?_⟩
      rw [regexBody.eq_def]
      simp [goes, other '/' (by decide), other '\\' (by decide), forbidden]
  | endOfInput => exact ⟨.endOfInput, rfl, by rw [regexBody.eq_def]⟩
  | escapedEnd =>
      refine ⟨.endOfInput, rfl, ?_⟩
      rw [regexBody.eq_def]
      simp [solid]

theorem regexBody_of_closed {text : List Char} (leads : Leads false text false)
    (rest : List Char) : regexBody false (text ++ '/' :: rest) = (text ++ ['/'], .closed) := by
  have solid : isLineTerminator '/' = false := by decide
  have stops : regexBody false ('/' :: rest) = (['/'], .closed) := by
    rw [regexBody.eq_def]
    simp [solid]
  rw [regexBody_of_leads leads, stops]

/-- **A closing slash** ends the literal, and flags follow. -/
theorem regex_of_closed {text : List Char} (leads : Leads false text false) (rest : List Char) :
    regex ('/' :: (text ++ '/' :: rest)) =
      ⟨'/' :: (text ++ ['/']) ++ rest.takeWhile isIdContinue, .ok .regularExpressionLiteral⟩ := by
  simp [regex, regexBody_of_closed leads]

/-- **An obstacle** makes the error, which takes along what stands before it. -/
theorem regex_of_obstacle {last : Bool} {text : List Char} (leads : Leads false text last)
    {rest taken : List Char} {error : LexError} (obstacle : Obstacle rest taken error) :
    regex ('/' :: (text ++ rest)) = ⟨'/' :: (text ++ taken), .error error⟩ := by
  obtain ⟨stop, cause, stops⟩ := regexBody_of_obstacle last obstacle
  have read := regexBody_of_leads leads rest
  rw [stops] at read
  cases stop with
  | closed => cases cause
  | _ =>
      cases cause
      simp [regex, read]

end Piece

namespace RegexGrammar

variable {text other cs : List Char}

theorem exists_of_mem_literal (listed : text ∈ literal) (starts : text <+: cs) :
    ∃ before rest, Leads false before false ∧ text = '/' :: (before ++ ['/']) ∧
      cs = '/' :: (before ++ '/' :: rest) := by
  obtain ⟨_, rfl, _, ⟨before, inBody, _, rfl, rfl⟩, rfl⟩ := listed
  obtain ⟨rest, rfl⟩ := starts
  exact ⟨before, rest, leads_of_mem_body inBody, rfl, by simp⟩

/-- **At most one literal** stands first. -/
theorem literal_unique (listed : text ∈ literal) (starts : text <+: cs)
    (listedOther : other ∈ literal) (startsOther : other <+: cs) : other = text := by
  obtain ⟨before, rest, leads, rfl, rfl⟩ := exists_of_mem_literal listed starts
  obtain ⟨before', rest', leads', rfl, same⟩ := exists_of_mem_literal listedOther startsOther
  have read := Piece.regexBody_of_closed leads rest
  have readOther := Piece.regexBody_of_closed leads' rest'
  rw [← (List.cons.inj same).2, read] at readOther
  injection readOther with sameRead
  rw [sameRead]

/-- **A literal stands first**, or an obstacle is met before one is closed. -/
theorem literal_or_obstacle (rest : List Char) :
    (∃ text ∈ literal, text <+: '/' :: rest) ∨
      ∃ text ∈ unclosed, ∃ left taken error, Obstacle left taken error ∧ rest = text ++ left := by
  obtain ⟨text, left, last, rfl, leads, ⟨rfl, closes⟩ | ⟨taken, error, obstacle⟩⟩ :=
    Piece.exists_leads false rest
  · obtain ⟨more, rfl⟩ := List.head?_eq_some_iff.1 closes
    refine .inl ⟨'/' :: (text ++ ['/']), ?_, more, by simp⟩
    exact ⟨_, rfl, _, ⟨text, leads_false_iff.1 leads, _, rfl, rfl⟩, rfl⟩
  · exact .inr ⟨text, exists_leads_iff.1 ⟨last, leads⟩, left, taken, error, obstacle, rfl⟩

end RegexGrammar

namespace Piece

open RegexGrammar

variable (options : Options) {goal : Goal} {rest : List Char}
  (notLine : rest.head? ≠ some '/') (notBlock : rest.head? ≠ some '*')
  (allows : goal.allowsRegex = true)

include notLine notBlock allows

theorem scan_of_slash : scan options goal ('/' :: rest) = regex ('/' :: rest) :=
  (Production.Applies.regex allows notLine notBlock).scan_eq

theorem scan_of_literal {text : List Char} (listed : text ∈ literal)
    (starts : text <+: '/' :: rest) :
    scan options goal ('/' :: rest) =
      ⟨text ++ (('/' :: rest).drop text.length).takeWhile isIdContinue,
        .ok .regularExpressionLiteral⟩ := by
  rw [scan_of_slash options notLine notBlock allows]
  obtain ⟨before, more, leads, rfl, same⟩ := exists_of_mem_literal listed starts
  rw [same, regex_of_closed leads]
  simp

theorem scan_of_obstacle {text left taken : List Char} {error : LexError}
    (listed : text ∈ unclosed) (obstacle : Obstacle left taken error) (same : rest = text ++ left) :
    scan options goal ('/' :: rest) = ⟨'/' :: (text ++ taken), .error error⟩ := by
  rw [scan_of_slash options notLine notBlock allows, same]
  obtain ⟨last, leads⟩ := exists_leads_iff.2 listed
  exact regex_of_obstacle leads obstacle

end Piece

namespace Lexer

open RegexGrammar

/-- **Regular expression literals are exactly their grammar.** After any commands, let
`cs` be the text to be tokenized first, and let it start with a slash that opens no
comment, under a goal that reads it as a regular expression. The token is a literal
exactly if `cs` starts with one; there is then only one, and the token is it and the
longest run of flags behind it. Otherwise an obstacle is met first. Wherever one is met
behind an unclosed text, the token is its error, and stops where the obstacle says. -/
theorem pulls_regex_literals (name source : String) (options : Options)
    (commands : List Command) (goal : Goal) (short : source.utf8ByteSize < counterBound - 1) :
    ∃ replies lx, (create name source options).drive commands = .ok (replies, lx) ∧
      ∃ cs token after, lx.PullsAt options goal cs token after ∧
        ∀ rest, cs = '/' :: rest → rest.head? ≠ some '/' → rest.head? ≠ some '*' →
          goal.allowsRegex = true →
          (token.kind = .regularExpressionLiteral ↔ ∃ text ∈ literal, text <+: cs) ∧
          (∀ text ∈ literal, text <+: cs →
            (∀ other ∈ literal, other <+: cs → other = text) ∧
            token.lexeme.toList = text ++ (cs.drop text.length).takeWhile isIdContinue ∧
            token.error = none) ∧
          ((∀ text ∈ literal, ¬ text <+: cs) →
            ∃ text ∈ unclosed, ∃ left taken error,
              Obstacle left taken error ∧ rest = text ++ left) ∧
          (∀ text ∈ unclosed, ∀ left taken error, Obstacle left taken error →
            rest = text ++ left →
            token.kind = .error ∧ token.lexeme.toList = '/' :: (text ++ taken) ∧
              token.error = some error) := by
  obtain ⟨replies, lx, run, cs, token, after, pull, carries⟩ :=
    exists_pull name options commands goal short
  refine ⟨replies, lx, run, cs, token, after, pull, ?_⟩
  rintro rest rfl notLine notBlock allows
  obtain ⟨sameKind, sameLexeme, sameError⟩ := carries
  refine ⟨⟨?_, ?_⟩, ?_, ?_, ?_⟩
  · intro isLiteral
    refine (literal_or_obstacle rest).resolve_right ?_
    rintro ⟨text, listed, left, taken, error, obstacle, same⟩
    rw [Piece.scan_of_obstacle options notLine notBlock allows listed obstacle same,
      isLiteral] at sameKind
    cases sameKind
  · rintro ⟨text, listed, starts⟩
    rw [sameKind, Piece.scan_of_literal options notLine notBlock allows listed starts]
    rfl
  · intro text listed starts
    refine ⟨fun other listedOther startsOther =>
      literal_unique listed starts listedOther startsOther, ?_⟩
    rw [sameLexeme, sameError,
      Piece.scan_of_literal options notLine notBlock allows listed starts]
    exact ⟨rfl, rfl⟩
  · intro none
    refine (literal_or_obstacle rest).resolve_left ?_
    rintro ⟨text, listed, starts⟩
    exact none text listed starts
  · intro text listed left taken error obstacle same
    rw [sameKind, sameLexeme, sameError,
      Piece.scan_of_obstacle options notLine notBlock allows listed obstacle same]
    exact ⟨rfl, rfl, rfl⟩

/-- A slash and an escaped bracket in brackets that a line terminator cuts off. -/
theorem pulls_regex_literals_brackets :
    "=/[\\]/\n".utf8ByteSize < counterBound - 1 ∧
      ∃ replies lx, (create "a.js" "=/[\\]/\n" {}).drive
          [.ask (.next .div), .ask (.peek .div)] = .ok (replies, lx) ∧
        ∃ token after, lx.next .regExp = .ok (token, after) ∧ token.kind = .error ∧
          token.lexeme.toList = "/[\\]/".toList ∧ token.error = some .regexLineTerminator := by
  obtain ⟨replies, lx, run, cs, token, after, pull, literals⟩ := pulls_regex_literals "a.js"
    "=/[\\]/\n" {} [.ask (.next .div), .ask (.peek .div)] .regExp (by decide)
  obtain ⟨_, _, evaluated, unread⟩ : ∃ replies lx, (create "a.js" "=/[\\]/\n" {}).drive
      [.ask (.next .div), .ask (.peek .div)] = .ok (replies, lx) ∧
      lx.place.rest = '/' :: "[\\]/\n".toList := ⟨_, _, rfl, rfl⟩
  rw [evaluated] at run
  cases run
  have first : cs = '/' :: "[\\]/\n".toList := (pull.first.1 rfl).trans unread
  have inBrackets : ['\\', ']', '/'] ∈ content := by
    refine ⟨[['\\', ']'], ['/']], rfl, ?_⟩
    simp only [List.mem_cons, List.not_mem_nil, or_false]
    rintro _ (rfl | rfl)
    · exact .inl ⟨']', by decide, rfl⟩
    · exact .inr ⟨'/', by decide, by decide, by decide, rfl⟩
  have listed : "[\\]/".toList ∈ unclosed :=
    .inr ⟨[], Language.nil_mem_kstar _, _, ⟨_, rfl, _, inBrackets, rfl⟩, rfl⟩
  obtain ⟨-, -, -, obstacles⟩ := literals _ first (by decide) (by decide) rfl
  exact ⟨by decide, _, _, evaluated, token, after, pull.pulled,
    obstacles _ listed _ _ _ (.lineTerminator [] rfl) rfl⟩

end Lexer

end GoalLexer
