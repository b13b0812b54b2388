import GoalLexer.Proofs.Commands
import GoalLexer.Proofs.Names
import GoalLexer.Proofs.Repetition

/-!
# Nested templates

A template literal with substitutions comes as several tokens, and between them may
stand groups in braces and further templates. A lexer does not know which brace closes
what. A caller who keeps a stack of what is open knows, and asks for the rest of a
template exactly when a substitution is the innermost thing open: `Lexer.nestedPulls`.

`Template`, `Body` and `Spaced` are the trees of such literals, with their texts and the
tokens that they stand for. `Reads` says what the caller finds in an unread text, pull
after pull. Every tree is read as its tokens, whatever is open around it and whatever
follows it (`Template.reads`), and a lexer pulls what is read
(`Lexer.Coherent.nestedPulls`). Together: `Lexer.nested_templates_round_trip`.
-/

set_option autoImplicit false

namespace GoalLexer

/-! ## Trees -/

/-- Whether a text may stand between two ends of template pieces: a backslash pairs with
the character behind it, and outside of the pairs there is neither a backtick nor the
opening of a substitution. -/
def isChunk : List Char → Bool
  | [] => true
  | c :: cs =>
      if c == '\\' then
        match cs with
        | [] => false
        | _ :: cs => isChunk cs
      else c != Piece.backtick && !(c == '$' && cs.head? == some '{') && isChunk cs

structure Chunk where
  chars : List Char
  isChunk : isChunk chars = true

mutual

/-- A template literal behind its opening: chunks in alternation with the bodies of
substitutions, a chunk first and last. -/
inductive Template where
  | chunk (chunk : Chunk)
  | substitution (chunk : Chunk) (body : Body) (rest : Template)

/-- What stands in a substitution or a group: names, spaces, groups and templates. -/
inductive Body where
  | word (word : Word) (rest : Spaced)
  | spaced (rest : Spaced)

/-- A body in which no name stands first, so that it may follow a name. -/
inductive Spaced where
  | empty
  | space (rest : Body)
  | group (inner rest : Body)
  | template (tree : Template) (rest : Body)

end

def Piece.TemplateEnd.chars : Piece.TemplateEnd → List Char
  | backtick => [Piece.backtick]
  | substitution => ['$', '{']

mutual

def Template.text : Template → List Char
  | .chunk chunk => chunk.chars ++ Piece.TemplateEnd.backtick.chars
  | .substitution chunk body rest =>
      chunk.chars ++ (Piece.TemplateEnd.substitution.chars ++ (body.text ++ '}' :: rest.text))

def Body.text : Body → List Char
  | .word word rest => word.chars ++ rest.text
  | .spaced rest => rest.text

def Spaced.text : Spaced → List Char
  | .empty => []
  | .space rest => ' ' :: rest.text
  | .group inner rest => '{' :: (inner.text ++ '}' :: rest.text)
  | .template tree rest => Piece.backtick :: (tree.text ++ rest.text)

end

/-- The source that consists of a template literal. -/
def Template.source (tree : Template) : String := String.ofList (Piece.backtick :: tree.text)

/-! ## Tokens of trees -/

/-- What a token is, apart from where it stands. -/
structure Shape where
  kind : TokenKind
  lexeme : String
  error : Option LexError := none
  deriving DecidableEq, Repr

def Token.shape (t : Token) : Shape := ⟨t.kind, t.lexeme, t.error⟩

/-- What a piece of a template literal starts with. -/
inductive Opening where
  | backtick
  | brace
  deriving DecidableEq, Repr

namespace Opening

def char : Opening → Char
  | backtick => Piece.backtick
  | brace => '}'

def kind : Opening → Piece.TemplateEnd → TokenKind
  | backtick, .backtick => .noSubstitutionTemplate
  | backtick, .substitution => .templateHead
  | brace, .backtick => .templateTail
  | brace, .substitution => .templateMiddle

/-- The token for a chunk between an opening and an end. -/
def shape (opening : Opening) (chunk : Chunk) (stop : Piece.TemplateEnd) : Shape :=
  ⟨opening.kind stop, String.ofList (opening.char :: (chunk.chars ++ stop.chars)), none⟩

end Opening

def Word.kind (options : Options) (w : Word) : TokenKind :=
  if (ReservedWords.mk options.strictMode).contains (String.ofList w.chars) then .reservedWord
  else .identifierName

mutual

/-- The tokens of a template literal that starts with a given opening. -/
def Template.shapes (options : Options) : Template → Opening → List Shape
  | .chunk chunk, opening => [opening.shape chunk .backtick]
  | .substitution chunk body rest, opening =>
      opening.shape chunk .substitution :: (body.shapes options ++ rest.shapes options .brace)

def Body.shapes (options : Options) : Body → List Shape
  | .word word rest =>
      ⟨word.kind options, String.ofList word.chars, none⟩ :: rest.shapes options
  | .spaced rest => rest.shapes options

def Spaced.shapes (options : Options) : Spaced → List Shape
  | .empty => []
  | .space rest => rest.shapes options
  | .group inner rest =>
      ⟨.punctuator, "\x7b", none⟩ ::
        (inner.shapes options ++ ⟨.rightBracePunctuator, "\x7d", none⟩ :: rest.shapes options)
  | .template tree rest => tree.shapes options .backtick ++ rest.shapes options

end

/-! ## A caller with a stack -/

/-- What a caller has found open. -/
inductive Construct where
  /-- A substitution of a template literal. -/
  | substitution
  /-- A group in braces. -/
  | group
  deriving DecidableEq, Repr

namespace Construct

/-- The goal to pull under: `tail` right inside a substitution, and elsewhere one under
which a brace resumes no template. -/
def goal (tail : Goal) : List Construct → Goal
  | substitution :: _ => tail
  | _ => .div

/-- What is open after a token. -/
def follow (stack : List Construct) (s : Shape) : List Construct :=
  match s.kind with
  | .templateHead => substitution :: stack
  | .templateTail | .rightBracePunctuator => stack.tail
  | .punctuator => if s.lexeme = "\x7b" then group :: stack else stack
  | _ => stack

end Construct

/-- Pulls one token for each of the goals, which are for pulls right inside a
substitution, and keeps account of what is open. -/
def Lexer.nestedPulls : (tails : List Goal) → List Construct → Lexer →
    Except Fault (List Token × List Construct × Lexer)
  | [], stack, lx => .ok ([], stack, lx)
  | tail :: tails, stack, lx => do
      let (token, lx) ← lx.next (Construct.goal tail stack)
      let (tokens, last) ← nestedPulls tails (Construct.follow stack token.shape) lx
      return (token :: tokens, last)

/-- What the caller finds in an unread text while trivia are skipped: from the stack and
the text before to the stack and the text behind. -/
inductive Reads (options : Options) :
    List Construct → List Char → List Shape → List Construct → List Char → Prop
  | done (stack : List Construct) (cs : List Char) : Reads options stack cs [] stack cs
  | skip {stack last : List Construct} {cs ds es : List Char} {shapes : List Shape}
      (skips : SkipsTo cs ds) (reads : Reads options stack ds shapes last es) :
      Reads options stack cs shapes last es
  | pull {stack last : List Construct} {lexeme rest es : List Char} {kind : TokenKind}
      {shapes : List Shape}
      (scans : ∀ tail : Goal, tail.allowsTemplateTail = true →
        Piece.scan options (Construct.goal tail stack) (lexeme ++ rest) = ⟨lexeme, .ok kind⟩)
      (solid : kind.isTrivia = false)
      (reads : Reads options (Construct.follow stack ⟨kind, String.ofList lexeme, none⟩) rest
        shapes last es) :
      Reads options stack (lexeme ++ rest) (⟨kind, String.ofList lexeme, none⟩ :: shapes) last es

theorem Reads.trans {options : Options} {stack mid last : List Construct} {cs ds es : List Char}
    {shapes more : List Shape} (first : Reads options stack cs shapes mid ds)
    (second : Reads options mid ds more last es) :
    Reads options stack cs (shapes ++ more) last es := by
  induction first with
  | done => exact second
  | skip skips _ ih => exact .skip skips (ih second)
  | pull scans solid _ ih => exact .pull scans solid (ih second)

/-! ## Pieces of trees -/

/-- A chunk is passed over, and the piece ends where it should. -/
theorem Piece.templateBody_of_chunk {chunk : List Char} (isChunk : isChunk chunk = true)
    (stop : TemplateEnd) (rest : List Char) :
    templateBody (chunk ++ (stop.chars ++ rest)) = some (chunk ++ stop.chars, stop) := by
  fun_induction GoalLexer.isChunk chunk with
  | case1 =>
      cases stop with
      | backtick => exact templateBody_of_backtick rfl
      | substitution => exact templateBody_of_opening (by decide) rfl
  | case2 => cases isChunk
  | case3 c escape escaped cs ih =>
      rw [List.cons_append, List.cons_append, templateBody_of_escape escape, ih isChunk]
      rfl
  | case4 c cs escape ih =>
      simp only [Bool.and_eq_true, bne_iff_ne, Bool.not_eq_true'] at isChunk
      obtain ⟨⟨tick, opens⟩, isChunk⟩ := isChunk
      -- a dollar sign that ends the chunk is followed by a backtick or another one
      have goesOn : ¬ (c == '$' && (cs ++ (stop.chars ++ rest)).head? == some '{') = true := by
        cases cs with
        | nil => cases stop <;> simp [TemplateEnd.chars, backtick]
        | cons d cs => simpa using opens
      rw [List.cons_append, templateBody_of_plain (by simpa using tick) goesOn escape, ih isChunk]
      rfl

namespace Piece

variable (options : Options) {goal : Goal} (rest : List Char)

/-- The piece for a chunk between an opening and an end. -/
theorem scan_of_opening {opening : Opening}
    (resumes : opening = .brace → goal.allowsTemplateTail = true) (chunk : Chunk)
    (stop : TemplateEnd) :
    scan options goal (opening.char :: (chunk.chars ++ (stop.chars ++ rest))) =
      ⟨opening.char :: (chunk.chars ++ stop.chars), .ok (opening.kind stop)⟩ := by
  have body := templateBody_of_chunk chunk.isChunk stop rest
  cases opening with
  | backtick =>
      rw [Opening.char, Production.Applies.template.scan_eq]
      simp only [Production.run, template, templatePiece, List.drop_succ_cons, List.drop_zero, body]
      cases stop <;> rfl
  | brace =>
      rw [Opening.char, (Production.Applies.templateContinuation (resumes rfl)).scan_eq]
      simp only [Production.run, templateContinuation, templatePiece, List.drop_succ_cons,
        List.drop_zero, body]
      cases stop <;> rfl

theorem scan_of_word (word : Word) (stops : rest.head?.any isIdContinue = false) :
    scan options goal (word.chars ++ rest) = ⟨word.chars, .ok (word.kind options)⟩ := by
  have others : (word.others ++ rest).takeWhile isIdContinue = word.others := by
    rw [List.takeWhile_append_of_pos word.continues, takeWhile_eq_nil_iff_head?.2 stops,
      List.append_nil]
  rw [Word.chars, List.cons_append, scan_of_isIdStart options goal word.starts, others]
  rfl

theorem scan_of_openingBrace : scan options goal ('{' :: rest) = ⟨['{'], .ok .punctuator⟩ := by
  have solid : IsSolid '{' := by decide
  rw [(Production.Applies.punctuator (solid.startsNumber _ rest) rfl).scan_eq]
  rfl

theorem scan_of_closingBrace :
    scan options .div ('}' :: rest) = ⟨['}'], .ok .rightBracePunctuator⟩ := by
  rw [(Production.Applies.rightBrace rfl).scan_eq]
  rfl

end Piece

/-! ## Trees are read -/

/-- What is open before an opening. -/
def Opening.before (stack : List Construct) : Opening → List Construct
  | backtick => stack
  | brace => .substitution :: stack

/-- What is open behind an end. -/
def Piece.TemplateEnd.after (stack : List Construct) : Piece.TemplateEnd → List Construct
  | backtick => stack
  | substitution => .substitution :: stack

section Reads

variable {options : Options} {stack last : List Construct} {rest es : List Char}
  {shapes : List Shape}

/-- A piece of a template is pulled. -/
theorem Reads.opening (opening : Opening) (chunk : Chunk) (stop : Piece.TemplateEnd)
    (reads : Reads options (stop.after stack) rest shapes last es) :
    Reads options (opening.before stack) (opening.char :: (chunk.chars ++ (stop.chars ++ rest)))
      (opening.shape chunk stop :: shapes) last es := by
  have text : opening.char :: (chunk.chars ++ (stop.chars ++ rest)) =
      opening.char :: (chunk.chars ++ stop.chars) ++ rest := by simp
  have followed : Construct.follow (opening.before stack) (opening.shape chunk stop) =
      stop.after stack := by
    cases opening <;> cases stop <;> rfl
  rw [← followed] at reads
  rw [text]
  refine .pull ?_ ?_ reads
  · intro tail allows
    rw [← text]
    apply Piece.scan_of_opening
    rintro rfl
    exact allows
  · cases opening <;> cases stop <;> rfl

theorem Reads.word (word : Word) (stops : rest.head?.any isIdContinue = false)
    (reads : Reads options stack rest shapes last es) :
    Reads options stack (word.chars ++ rest)
      (⟨word.kind options, String.ofList word.chars, none⟩ :: shapes) last es := by
  have kinds : word.kind options = .reservedWord ∨ word.kind options = .identifierName := by
    unfold Word.kind
    split
    · exact .inl rfl
    · exact .inr rfl
  refine .pull (fun tail allows => Piece.scan_of_word options rest word stops) ?_ ?_
  · rcases kinds with kind | kind <;> rw [kind] <;> rfl
  · rcases kinds with kind | kind <;> rw [kind] <;> exact reads

theorem Reads.openingBrace (reads : Reads options (.group :: stack) rest shapes last es) :
    Reads options stack ('{' :: rest) (⟨.punctuator, "\x7b", none⟩ :: shapes) last es := by
  change Reads options stack (['{'] ++ rest) (⟨_, String.ofList ['{'], none⟩ :: shapes) last es
  exact .pull (fun _ _ => Piece.scan_of_openingBrace options rest) rfl reads

theorem Reads.closingBrace (reads : Reads options stack rest shapes last es) :
    Reads options (.group :: stack) ('}' :: rest)
      (⟨.rightBracePunctuator, "\x7d", none⟩ :: shapes) last es := by
  change Reads options _ (['}'] ++ rest) (⟨_, String.ofList ['}'], none⟩ :: shapes) last es
  exact .pull (fun _ _ => Piece.scan_of_closingBrace options rest) rfl reads

theorem Reads.endOfInput (stack : List Construct) :
    Reads options stack [] [⟨.endOfInput, "", none⟩] stack [] := by
  change Reads options stack ([] ++ []) [⟨_, String.ofList [], none⟩] stack []
  exact .pull (fun _ _ => Piece.scan_nil options _) rfl (.done stack [])

end Reads

/-- What follows a name does not continue it. -/
theorem Spaced.stops (spaced : Spaced) (rest : List Char) :
    (spaced.text ++ '}' :: rest).head?.any isIdContinue = false := by
  cases spaced with
  | empty => exact (by decide : isIdContinue '}' = false)
  | space body => exact (by decide : isIdContinue ' ' = false)
  | group inner body => exact (by decide : isIdContinue '{' = false)
  | template tree body => exact (by decide : isIdContinue Piece.backtick = false)

mutual

/-- **A template is read as its tokens**, whatever is open around it and whatever
follows it. -/
theorem Template.reads (options : Options) (tree : Template) (opening : Opening)
    (stack : List Construct) (rest : List Char) :
    Reads options (opening.before stack) (opening.char :: (tree.text ++ rest))
      (tree.shapes options opening) stack rest := by
  cases tree with
  | chunk chunk =>
      simp only [Template.text, Template.shapes, List.append_assoc]
      exact .opening opening chunk .backtick (.done stack rest)
  | substitution chunk body more =>
      simp only [Template.text, Template.shapes, List.append_assoc, List.cons_append]
      apply Reads.opening opening chunk .substitution
      exact (body.reads options (.substitution :: stack) (more.text ++ rest)).trans
        (more.reads options .brace stack rest)

theorem Body.reads (options : Options) (body : Body) (stack : List Construct) (rest : List Char) :
    Reads options stack (body.text ++ '}' :: rest) (body.shapes options) stack ('}' :: rest) := by
  cases body with
  | word word spaced =>
      simp only [Body.text, Body.shapes, List.append_assoc]
      exact .word word (spaced.stops rest) (spaced.reads options stack rest)
  | spaced spaced => exact spaced.reads options stack rest

theorem Spaced.reads (options : Options) (spaced : Spaced) (stack : List Construct)
    (rest : List Char) :
    Reads options stack (spaced.text ++ '}' :: rest) (spaced.shapes options) stack
      ('}' :: rest) := by
  cases spaced with
  | empty => exact .done stack ('}' :: rest)
  | space body =>
      have white : isWhiteSpace ' ' = true := by decide
      exact .skip (.white white (.done _)) (body.reads options stack rest)
  | group inner body =>
      simp only [Spaced.text, Spaced.shapes, List.append_assoc, List.cons_append]
      apply Reads.openingBrace
      refine (inner.reads options (.group :: stack) (body.text ++ '}' :: rest)).trans ?_
      exact .closingBrace (body.reads options stack rest)
  | template tree body =>
      simp only [Spaced.text, Spaced.shapes, List.append_assoc, List.cons_append]
      exact (tree.reads options .backtick stack (body.text ++ '}' :: rest)).trans
        (body.reads options stack rest)

end

/-! ## Lexers -/

/-- The pull of a reader whose next token is known. -/
theorem Reader.after_of_scan {r : Reader} (skipping : r.options.captureTrivia = false) {goal : Goal}
    {lexeme rest : List Char} {kind : TokenKind}
    (scans : Piece.scan r.options goal (lexeme ++ rest) = ⟨lexeme, .ok kind⟩)
    (solid : kind.isTrivia = false) (skips : SkipsTo r.place.rest (lexeme ++ rest)) :
    (r.token goal).shape = ⟨kind, String.ofList lexeme, none⟩ ∧ (r.after goal).place.rest = rest ∧
      (r.after goal).log = r.log := by
  have bare : Bare (lexeme ++ rest) := by
    rw [Piece.bare_iff r.options goal, scans]
    exact solid
  have here : (r.next goal).rest = lexeme ++ rest :=
    Place.wanted_rest_eq r.options goal skipping skips bare
  have piece : (r.next goal).piece r.options goal = ⟨lexeme, .ok kind⟩ := by
    rw [Place.piece, here, scans]
  have shape : (r.token goal).shape = ⟨kind, String.ofList lexeme, none⟩ := by
    rw [Token.shape, Reader.token, Place.token, piece]
    rfl
  refine ⟨shape, ?_, ?_⟩
  · rw [after_place, Place.past, Place.skip_rest, here, piece, List.drop_left]
  · have wellFormed : (r.token goal).isError = false := by
      rw [Reader.token, Place.isError_token]
      exact congrArg (·.error.isSome) shape
    exact Lexer.Aligned.log_after_of_not_isError r wellFormed

namespace Lexer

/-- **What is read is pulled.** -/
theorem Coherent.nestedPulls {options : Options} (skipping : options.captureTrivia = false)
    {stack last : List Construct} {cs es : List Char} {shapes : List Shape}
    (reads : Reads options stack cs shapes last es) {lx : Lexer} (coherent : lx.Coherent)
    (free : lx.lookahead = none) (sameOptions : lx.reader.options = options)
    (skips : SkipsTo lx.reader.place.rest cs) {tails : List Goal}
    (allow : ∀ tail ∈ tails, tail.allowsTemplateTail = true)
    (sameLength : tails.length = shapes.length) :
    ∃ tokens after, lx.nestedPulls tails stack = .ok (tokens, last, after) ∧
      tokens.map Token.shape = shapes ∧ after.log = lx.log := by
  induction reads generalizing lx tails with
  | done =>
      cases List.length_eq_zero_iff.1 sameLength
      exact ⟨[], lx, rfl, rfl, rfl⟩
  | skip first _ ih => exact ih coherent free sameOptions (skips.trans first) allow sameLength
  | @pull stack last lexeme rest es kind shapes scans solid reads ih =>
      obtain ⟨tail, tails, rfl⟩ := List.exists_cons_of_length_eq_add_one sameLength
      obtain ⟨allows, allow⟩ := List.forall_mem_cons.1 allow
      obtain ⟨after, pulled, coherentNext, moved, freeNext⟩ :=
        coherent.next (Construct.goal tail stack)
      subst sameOptions
      obtain ⟨shape, left, silent⟩ :=
        Reader.after_of_scan skipping (scans tail allows) solid skips
      rw [← moved] at left silent
      obtain ⟨tokens, final, run, found, logged⟩ :=
        ih coherentNext freeNext (by rw [moved]; rfl) (left ▸ .done _) allow
          (Nat.succ.inj sameLength)
      refine ⟨lx.reader.token (Construct.goal tail stack) :: tokens, final, ?_, ?_, ?_⟩
      · rw [← shape] at run
        simp only [Lexer.nestedPulls, pulled, run, bind, Except.bind]
        rfl
      · rw [List.map_cons, shape, found]
      · rw [logged, log_of_none freeNext, silent, log_of_none free]

/-- **Nested templates come back as their tokens.** A caller who keeps a stack of what is
open, and asks for the rest of a template exactly when a substitution is the innermost,
pulls from the text of a template literal the tokens of its tree and then the end of the
input. Nothing is open then, and nothing was reported. -/
theorem nested_templates_round_trip (name : String) (options : Options)
    (skipping : options.captureTrivia = false) (tree : Template)
    (short : tree.source.utf8ByteSize < counterBound - 1) (tails : List Goal)
    (allow : ∀ tail ∈ tails, tail.allowsTemplateTail = true)
    (sameLength : tails.length = (tree.shapes options .backtick).length + 1) :
    ∃ tokens lx,
      (create name tree.source options).nestedPulls tails [] = .ok (tokens, [], lx) ∧
      tokens.map Token.shape = tree.shapes options .backtick ++ [⟨.endOfInput, "", none⟩] ∧
      lx.log.toList = [] := by
  have text : tree.source.toList = Piece.backtick :: (tree.text ++ []) := by
    rw [Template.source, String.toList_ofList, List.append_nil]
  have reads := (tree.reads options .backtick [] []).trans (.endOfInput [])
  have start : SkipsTo (create name tree.source options).reader.place.rest
      (Piece.backtick :: (tree.text ++ [])) := text ▸ .done tree.source.toList
  obtain ⟨tokens, lx, run, found, logged⟩ :=
    Coherent.nestedPulls skipping reads (create_coherent name options short) rfl rfl start allow
      (by rw [sameLength, List.length_append]; rfl)
  refine ⟨tokens, lx, run, found, ?_⟩
  rw [logged]
  rfl

/-- A template in a group in a substitution, with a dollar sign and an escaped backtick at
the ends of chunks. -/
def nestedTemplate : Template :=
  .substitution ⟨['a', '$'], by decide⟩
    (.word ⟨'x', [], by decide, by simp⟩ (.space (.spaced (.group
      (.word ⟨'y', [], by decide, by simp⟩ (.template
        (.substitution ⟨['\\', Piece.backtick], by decide⟩
          (.word ⟨'z', [], by decide, by simp⟩ .empty) (.chunk ⟨[], by decide⟩))
        (.spaced .empty)))
      (.spaced .empty)))))
    (.chunk ⟨['c'], by decide⟩)

theorem nested_templates_round_trip_group :
    nestedTemplate.source = "`a$$\x7bx \x7by`\\`$\x7bz\x7d`\x7d\x7dc`" ∧
      nestedTemplate.source.utf8ByteSize < counterBound - 1 ∧
      ∃ tokens lx,
        (create "a.js" nestedTemplate.source { captureTrivia := false }).nestedPulls
            [.templateTail, .regExpOrTemplateTail, .templateTail, .templateTail, .templateTail,
              .templateTail, .regExpOrTemplateTail, .templateTail, .templateTail, .templateTail]
            [] = .ok (tokens, [], lx) ∧
        tokens.map Token.shape =
          [⟨.templateHead, "`a$$\x7b", none⟩, ⟨.identifierName, "x", none⟩,
            ⟨.punctuator, "\x7b", none⟩, ⟨.identifierName, "y", none⟩,
            ⟨.templateHead, "`\\`$\x7b", none⟩, ⟨.identifierName, "z", none⟩,
            ⟨.templateTail, "\x7d`", none⟩, ⟨.rightBracePunctuator, "\x7d", none⟩,
            ⟨.templateTail, "\x7dc`", none⟩, ⟨.endOfInput, "", none⟩] ∧
        lx.log.toList = [] := by
  obtain ⟨tokens, lx, run, found, silent⟩ :=
    nested_templates_round_trip "a.js" { captureTrivia := false } rfl nestedTemplate (by decide)
      [.templateTail, .regExpOrTemplateTail, .templateTail, .templateTail, .templateTail,
        .templateTail, .regExpOrTemplateTail, .templateTail, .templateTail, .templateTail]
      (by decide) (by decide)
  exact ⟨by decide, by decide, tokens, lx, run, found.trans (by decide), silent⟩

end Lexer

end GoalLexer
