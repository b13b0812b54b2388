import GoalLexer.Proofs.Session
import GoalLexer.Proofs.Snippets
import Mathlib.Data.List.Forall2

/-!
# Diagnostics mirror error tokens

An error token and the diagnostic for it say the same (`Describes`): cause, code
and extent, and one snippet in which the lexeme is underlined as far as its first
line goes. Every error token of a source is described by its report
(`Place.report_describes`), so no snippet is ever left out.

`Reader.Moves` says that a reader consumes tokens on its way to another: the log
grows by their reports. Pulls move, moves compose, and a session is a move
(`Reader.Moves.session`). The log of a lexer is then, one for one, the list of the
error tokens consumed, with the one that is looked at behind them
(`Lexer.log_mirrors_errors`).
-/

set_option autoImplicit false

namespace GoalLexer

/-- The snippet shows the line on which a token starts, with the part of the
lexeme on that line underlined. -/
structure Snippet.Underlines (file : SourceFile) (t : Token) (s : Snippet) : Prop where
  line : file.lineText t.position.line = .ok s.line
  lineNumber : s.lineNumber = t.position.line
  startColumn : s.startColumn = t.position.column
  endColumn_le : s.endColumn ≤ s.line.toList.length
  underlined : s.underlined = firstLine t.lexeme.toList
  nonempty : s.underlined ≠ []

/-- The diagnostic says what is wrong with a token and where. -/
structure Describes (file : SourceFile) (t : Token) (d : Diagnostic) : Prop where
  severity : d.severity = .error
  message : t.message = some d.message
  code : t.error.map (·.code) = d.code
  span : d.span = t.span
  notes : d.notes = []
  helps : d.helps = []
  snippet : ∃ s, d.snippets = [s] ∧ s.Underlines file t

/-! ## The report of a token -/

namespace Place

variable {options : Options} {goal : Goal} {name : String} {p : Place}

/-- An error token starts with a character that ends no line. -/
theorem exists_cons_of_isError (failed : (p.token options goal name).isError = true) :
    ∃ c rest, p.rest = c :: rest ∧ isLineTerminator c = false := by
  rw [isError_token] at failed
  unfold token Piece.error? piece at failed
  cases outcome : (Piece.scan options goal p.rest).outcome with
  | ok kind =>
      rw [outcome] at failed
      cases failed
  | error error => exact Piece.exists_cons_of_scan_error outcome

theorem firstLine_ne_nil_of_isError (failed : (p.token options goal name).isError = true) :
    firstLine (p.token options goal name).lexeme.toList ≠ [] := by
  obtain ⟨c, rest, unread, plain⟩ := exists_cons_of_isError failed
  have filled : (p.token options goal name).lexeme.toList ≠ [] := by
    rw [token_lexeme]
    apply (Piece.scan_takes options goal _).nonempty
    rw [unread]
    exact List.cons_ne_nil c rest
  obtain ⟨d, lexeme, same⟩ := List.exists_cons_of_ne_nil filled
  have starts : d :: lexeme <+: c :: rest := by
    rw [← same, ← unread]
    exact p.token_lexeme_isPrefix options goal name
  rw [same, (List.cons_prefix_cons.1 starts).1, firstLine, List.takeWhile_cons_of_pos]
  · exact List.cons_ne_nil c _
  · rw [plain]
    rfl

/-- The snippet of an error token exists, and underlines it. -/
theorem exists_snippet {file : SourceFile} (inside : p.IsIn file.chars)
    (failed : (p.token options goal name).isError = true) :
    ∃ s, Snippet.ofSpan file (p.token options goal name).span = .ok s ∧
      s.Underlines file (p.token options goal name) := by
  obtain ⟨c, rest, unread, plain⟩ := exists_cons_of_isError failed
  obtain ⟨passed, before, here, on⟩ := inside.onLine
  have noFeed : p.rest.head? ≠ some '\n' := by
    rw [unread]
    rintro ⟨⟩
    cases plain
  have plainHere := on.unbroken.plain noFeed
  have covered := p.token_lexeme_isPrefix options goal name
  have underlined := Snippet.underlined_covering on.column covered
  have stops : (p.token options goal name).span.stop =
      p.offset + Utf8.length (p.token options goal name).lexeme.toList := by
    rw [Utf8.length_toList]
    rfl
  refine ⟨_, Snippet.ofSpan_eq on plainHere rfl covered stops, ?_⟩
  refine ⟨?_, rfl, rfl, ?_, underlined, ?_⟩
  · exact on.lineText plainHere
  · have column := on.column
    simp only [Snippet.covering, Snippet.columns, String.toList_ofList, List.length_append]
    omega
  · rw [underlined]
    exact firstLine_ne_nil_of_isError failed

/-- **The report of an error token describes it.** -/
theorem report_describes {file : SourceFile} (inside : p.IsIn file.chars)
    (failed : (p.token options goal name).isError = true) :
    ∃ d, (p.token options goal name).report file = some d ∧
      Describes file (p.token options goal name) d := by
  obtain ⟨s, found, underlines⟩ := exists_snippet inside failed
  rw [isError_token] at failed
  obtain ⟨error, cause⟩ := Option.isSome_iff_exists.1 failed
  refine ⟨⟨.error, error.message, (p.token options goal name).span, some error.code, [], [], [s]⟩,
    ?_, ?_⟩
  · simp only [Token.report, cause, found, Option.map_some]
    rfl
  · exact ⟨rfl, by rw [Token.message, cause]; rfl, by rw [cause]; rfl, rfl, rfl, rfl, s, rfl,
      underlines⟩

end Place

/-! ## Tokens consumed along a session -/

/-- The tokens that a request takes from the source. -/
def Exchange.consumed (e : Exchange) : List Token :=
  match e.request, e.reply with
  | .peek _, _ => []
  | _, .token token => [token]
  | _, .tokens tokens => tokens
  | _, .item token => token.toList

namespace Reader

/-- The token stands at a place of the source. -/
def Emits (r : Reader) (t : Token) : Prop :=
  ∃ (goal : Goal) (p : Place), p.IsIn r.source.toList ∧ t = p.token r.options goal r.name

theorem Sound.emits {r : Reader} (sound : r.Sound) (goal : Goal) : r.Emits (r.token goal) :=
  ⟨goal, r.next goal, sound.inside.wanted r.options goal, rfl⟩

/-- The reader `s` is the reader `r` after it has consumed `tokens`. -/
structure Moves (r : Reader) (tokens : List Token) (s : Reader) : Prop where
  name : s.name = r.name
  options : s.options = r.options
  source : s.source = r.source
  sound : s.Sound
  emits : ∀ t ∈ tokens, r.Emits t
  log : s.log.toList = r.log.toList ++ tokens.filterMap (·.report r.file)

namespace Moves

variable {r s t : Reader} {tokens more : List Token}

theorem refl (sound : r.Sound) : Moves r [] r where
  name := rfl
  options := rfl
  source := rfl
  sound := sound
  emits := by
    intro t listed
    cases listed
  log := (List.append_nil _).symm

theorem trans (first : Moves r tokens s) (second : Moves s more t) :
    Moves r (tokens ++ more) t where
  name := second.name.trans first.name
  options := second.options.trans first.options
  source := second.source.trans first.source
  sound := second.sound
  emits := by
    intro token listed
    rcases List.mem_append.1 listed with early | late
    · exact first.emits token early
    · have emitted := second.emits token late
      unfold Emits at emitted
      rwa [first.name, first.options, first.source] at emitted
  log := by
    have sameFile : s.file = r.file := by
      unfold file
      rw [first.name, first.source]
    rw [second.log, first.log, sameFile, List.filterMap_append, List.append_assoc]

/-- **A pull** consumes its token. -/
theorem after (sound : r.Sound) (goal : Goal) : Moves r [r.token goal] (r.after goal) where
  name := rfl
  options := rfl
  source := rfl
  sound := sound.after goal
  emits := by
    intro t listed
    rw [List.mem_singleton.1 listed]
    exact sound.emits goal
  log := by
    rw [Reader.after, DiagnosticLog.toList_record, List.filterMap_cons, List.filterMap_nil]
    cases (r.token goal).report r.file <;> rfl

/-- The end of the input leaves no report, so it need not be counted. -/
theorem after_of_isEndOfInput (sound : r.Sound) {goal : Goal}
    (ended : (r.token goal).isEndOfInput = true) : Moves r [] (r.after goal) := by
  have move := after sound goal
  have wellFormed : (r.token goal).isError = false := by
    unfold Token.isEndOfInput at ended
    unfold Token.isError
    rw [beq_iff_eq.1 ended]
    rfl
  have silent : (r.token goal).report r.file = none :=
    Place.report_of_not_isError r.file wellFormed
  refine ⟨rfl, rfl, rfl, move.sound, by simp, ?_⟩
  rw [move.log, List.filterMap_cons_none silent]

theorem tokenizeAux (sound : r.Sound) (goal : Goal) (fuel : Nat) :
    Moves r (r.tokenizeAux goal fuel).1 (r.tokenizeAux goal fuel).2 := by
  induction fuel generalizing r with
  | zero => exact refl sound
  | succ fuel ih =>
      simp only [Reader.tokenizeAux]
      split
      · rename_i ended
        exact after_of_isEndOfInput sound ended
      · exact (after sound goal).trans (ih (sound.after goal))

/-- **One request** consumes the tokens of its exchange. -/
theorem serve (sound : r.Sound) (request : Request) (place : Place)
    (diagnostics : List Diagnostic) :
    Moves r (Exchange.consumed ⟨request, (r.serve request).1, place, diagnostics⟩)
      (r.serve request).2 := by
  cases request with
  | next goal => exact after sound goal
  | peek goal => exact refl sound
  | tokenize goal => exact tokenizeAux sound goal _
  | item =>
      simp only [Reader.serve, Exchange.consumed]
      split
      · rename_i ended
        exact after_of_isEndOfInput sound ended
      · exact after sound .div

/-- **A session** consumes the tokens of its exchanges. -/
theorem session (sound : r.Sound) (requests : List Request) :
    Moves r ((r.session requests).1.flatMap Exchange.consumed) (r.session requests).2 := by
  induction requests generalizing r with
  | nil => exact refl sound
  | cons request requests ih =>
      have first := serve sound request (r.serve request).2.place (r.seen request)
      simp only [Reader.session, List.flatMap_cons]
      exact first.trans (ih first.sound)

/-- The log holds one description for each error token, in order. -/
theorem describes (move : Moves r tokens s) (empty : r.log.toList = []) :
    List.Forall₂ (Describes r.file) (tokens.filter (·.isError)) s.log.toList := by
  rw [move.log, empty, List.nil_append]
  have emits := move.emits
  clear move
  induction tokens with
  | nil => exact .nil
  | cons token tokens ih =>
      have later := ih fun t listed => emits t (List.mem_cons_of_mem token listed)
      obtain ⟨goal, p, inside, rfl⟩ := emits token List.mem_cons_self
      cases failed : (p.token r.options goal r.name).isError with
      | false =>
          rw [List.filter_cons_of_neg (by simp [failed]),
            List.filterMap_cons_none (Place.report_of_not_isError r.file failed)]
          exact later
      | true =>
          have here : p.IsIn r.file.chars := inside
          obtain ⟨d, reported, described⟩ := Place.report_describes here failed
          rw [List.filter_cons_of_pos failed, List.filterMap_cons_some reported]
          exact .cons described later

end Moves

end Reader

namespace Lexer

/-- The token looked at, if there is one. -/
def pending (lx : Lexer) : List Token := lx.lookahead.toList.map (·.token)

/-- A lexer that has nothing but reports in its log: those of the tokens consumed
and of the one looked at. -/
theorem Coherent.moves_pending {lx : Lexer} (coherent : lx.Coherent) {r : Reader}
    {tokens : List Token} (move : r.Moves tokens lx.reader) :
    ∃ s, r.Moves (tokens ++ lx.pending) s ∧ s.log = lx.log := by
  unfold pending
  cases held : lx.lookahead with
  | none =>
      refine ⟨lx.reader, ?_, (log_of_none held).symm⟩
      simpa using move
  | some ahead =>
      refine ⟨lx.reader.after ahead.goal, ?_, (coherent.log_of_some held).symm⟩
      have sameToken := (coherent.ahead ahead held).1
      rw [Option.toList_some, List.map_singleton, sameToken]
      exact move.trans (Reader.Moves.after coherent.sound ahead.goal)

/-- **Diagnostics mirror error tokens.** After any session the log holds, in order,
exactly one diagnostic for each error token consumed, and one for an error token
that is looked at, and each describes its token. -/
theorem log_mirrors_errors (name source : String) (options : Options) (requests : List Request)
    (short : source.utf8ByteSize < counterBound - 1) :
    ∃ exchanges lx, (create name source options).session requests = .ok (exchanges, lx) ∧
      List.Forall₂ (Describes ⟨name, source⟩)
        ((exchanges.flatMap Exchange.consumed ++ lx.pending).filter (·.isError))
        lx.log.toList := by
  have start := create_coherent name options short
  obtain ⟨lx, run, coherent, reached⟩ := start.session requests
  have move := Reader.Moves.session start.sound requests
  rw [← reached] at move
  obtain ⟨s, moved, sameLog⟩ := coherent.moves_pending move
  refine ⟨_, lx, run, ?_⟩
  rw [← sameLog]
  exact moved.describes rfl

/-- A character that starts no token is consumed, and a comment on the next line
that has no end is looked at: two diagnostics. -/
theorem log_mirrors_errors_comment :
    "#\r\n/*é\n".utf8ByteSize < counterBound - 1 ∧
      ∃ exchanges lx,
        (create "a.js" "#\r\n/*é\n" {}).session
            [.next .div, .next .div, .next .regExp, .peek .div] = .ok (exchanges, lx) ∧
        lx.log.size = 2 ∧
        List.Forall₂ (Describes ⟨"a.js", "#\r\n/*é\n"⟩)
          ((exchanges.flatMap Exchange.consumed ++ lx.pending).filter (·.isError))
          lx.log.toList := by
  obtain ⟨exchanges, lx, run, mirrored⟩ := log_mirrors_errors "a.js" "#\r\n/*é\n" {}
    [.next .div, .next .div, .next .regExp, .peek .div] (by decide)
  obtain ⟨_, _, evaluated, two⟩ :
      ∃ exchanges lx, (create "a.js" "#\r\n/*é\n" {}).session
          [.next .div, .next .div, .next .regExp, .peek .div] = .ok (exchanges, lx) ∧
        lx.log.size = 2 := ⟨_, _, rfl, rfl⟩
  rw [evaluated] at run
  cases run
  exact ⟨by decide, _, _, evaluated, two, mirrored⟩

end Lexer

end GoalLexer
