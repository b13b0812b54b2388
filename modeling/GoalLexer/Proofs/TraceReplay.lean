import GoalLexer.Proofs.Commands
import Mathlib.Data.List.Chain

/-!
# The trace replays the tokens

A lexer leaves a trace of every token when it scans it, which may be long before the
token is pulled, or for nothing if the look-ahead is given up. Still the trace tells
which tokens were pulled: `Event.replay` reads it and takes back, at each look-ahead
given up, the latest token with its lexical error. What is left is the tokens pulled,
and the one looked at (`Lexer.trace_replays_pulls`).

A request adds to the trace the events of the token that it scans, after the event of
the look-ahead that it gives up, and nothing if it hands out the token looked at:
`Lexer.announced`. So what the replay holds is the events of the look-ahead on top of
what no request can take back, `Lexer.Replayed`, and every request keeps this
(`Replayed.serve`).
-/

set_option autoImplicit false

namespace GoalLexer

/-- A request for one token. -/
inductive Query where
  | pull (goal : Goal)
  | look (goal : Goal)
  deriving DecidableEq, Repr

def Query.request : Query → Request
  | pull goal => .next goal
  | look goal => .peek goal

namespace Event

def isToken : Event → Bool
  | token .. => true
  | _ => false

def isLexicalError : Event → Bool
  | lexicalError .. => true
  | _ => false

def isErrorToken : Event → Bool
  | token .error _ _ => true
  | _ => false

/-- Takes back the latest event, which must be a token under `goal`, and with it the
lexical error right before it. The latest event stands first. -/
def cancel (goal : Goal) : List Event → Option (List Event)
  | token _ _ under :: lexicalError .. :: kept => if under = goal then some kept else none
  | token _ _ under :: kept => if under = goal then some kept else none
  | _ => none

/-- One more event of a trace: a look-ahead given up takes a token back. -/
def replayOne (kept : List Event) : Event → Option (List Event)
  | discarded goal => cancel goal kept
  | event => some (event :: kept)

/-- The events of a trace that no look-ahead given up has taken back, the latest first.
There are none if a look-ahead is given up that is not the latest token, or is under
another goal. -/
def replay (trace : List Event) : Option (List Event) :=
  trace.foldlM replayOne []

/-- Lexical errors stand right before the tokens of errors, and nowhere else. -/
structure Paired (trace : List Event) : Prop where
  adjacent : trace.IsChain fun event next => event.isLexicalError = next.isErrorToken
  first : ∀ event ∈ trace.head?, event.isErrorToken = false
  last : ∀ event ∈ trace.getLast?, event.isLexicalError = false

theorem Paired.append {trace more : List Event} (before : Paired trace) (after : Paired more) :
    Paired (trace ++ more) where
  adjacent := by
    refine List.isChain_append.2 ⟨before.adjacent, after.adjacent, ?_⟩
    intro event last next first
    rw [before.last event last, after.first next first]
  first := by
    intro event first
    cases trace with
    | nil => exact after.first event first
    | cons head tail => exact before.first event first
  last := by
    intro event last
    rw [List.getLast?_append] at last
    cases ends : more.getLast? with
    | none =>
        rw [ends] at last
        exact before.last event last
    | some closing =>
        rw [ends] at last
        cases last
        exact after.last _ ends

theorem paired_nil : Paired [] := ⟨.nil, nofun, nofun⟩

theorem paired_discarded (goal : Goal) : Paired [discarded goal] :=
  ⟨.singleton _, by simp [isErrorToken], by simp [isLexicalError]⟩

end Event

namespace Token

/-- The event of a token that is scanned under a goal. -/
def event (goal : Goal) (t : Token) : Event := .token t.kind t.position.offset goal

/-- All events of a token: its lexical error, if it has one, and its own. -/
def events (goal : Goal) (t : Token) : List Event :=
  (t.error.map (.lexicalError t.position.source t.position.line t.position.column ·)).toList ++
    [t.event goal]

end Token

namespace Exchange

/-- The event of the token that a request pulls. -/
def pulled (e : Exchange) : List Event :=
  match e.request, e.reply with
  | .next goal, .token t => [t.event goal]
  | _, _ => []

end Exchange

namespace Lexer

/-- The event of the token looked at, if there is one. -/
def awaited (lx : Lexer) : List Event :=
  lx.lookahead.toList.map fun ahead => ahead.token.event ahead.goal

/-- The events that a request under a goal adds to the trace, where it gives the token
`t`: none if `t` is the token looked at, and else those of `t`, after a look-ahead that
is given up. -/
def announced (lx : Lexer) (goal : Goal) (t : Token) : List Event :=
  match lx.lookahead with
  | none => t.events goal
  | some ahead =>
      if ahead.goal = goal then [] else .discarded ahead.goal :: t.events goal

end Lexer

/-! ## The events of one token -/

namespace Event

variable {goal : Goal} {t : Token} {kept : List Event}

theorem filter_events : (t.events goal).filter isToken = [t.event goal] := by
  unfold Token.events
  cases t.error with
  | none => rfl
  | some error => rfl

theorem paired_events (carried : t.isError = t.error.isSome) : Paired (t.events goal) := by
  unfold Token.events Token.event
  cases failed : t.error with
  | none =>
      have wellFormed : t.kind ≠ .error := by
        simpa [Token.isError, failed] using carried
      refine ⟨.singleton _, ?_, ?_⟩
      · rintro _ ⟨⟩
        cases kind : t.kind with
        | error => exact absurd kind wellFormed
        | _ => rfl
      · rintro _ ⟨⟩
        rfl
  | some error =>
      have kind : t.kind = .error := by
        simpa [Token.isError, failed] using carried
      rw [kind]
      refine ⟨List.isChain_cons_cons.2 ⟨rfl, .singleton _⟩, ?_, ?_⟩
      · rintro _ ⟨⟩
        rfl
      · rintro _ ⟨⟩
        rfl

/-- A token that is scanned is added to what is kept. -/
theorem foldlM_events : (t.events goal).foldlM replayOne kept =
    some ((t.events goal).reverse ++ kept) := by
  unfold Token.events
  cases t.error with
  | none => rfl
  | some error => rfl

/-- A look-ahead given up takes back what its token has added. -/
theorem cancel_events (settled : ∀ event ∈ kept.head?, event.isLexicalError = false) :
    cancel goal ((t.events goal).reverse ++ kept) = some kept := by
  unfold Token.events Token.event
  cases t.error with
  | some error => simp [cancel]
  | none =>
      cases kept with
      | nil => simp [cancel]
      | cons event kept =>
          have plain := settled event rfl
          cases event with
          | lexicalError source line column error => cases plain
          | _ => simp [cancel]

theorem head?_events :
    ∀ event ∈ ((t.events goal).reverse ++ kept).head?, event.isLexicalError = false := by
  unfold Token.events
  rw [List.reverse_append]
  rintro _ ⟨⟩
  rfl

end Event

/-! ## The events of one request -/

namespace Lexer

variable {lx after : Lexer} {goal : Goal} {t : Token}

theorem trace_scanned (lx : Lexer) (goal : Goal) :
    (lx.scanned goal).trace.toList = lx.trace.toList ++
      ((lx.cursor.place.wanted lx.options goal).token lx.options goal lx.name).events goal := by
  simp [scanned, traceToken, took, moveTo, Cursor.restore, errorEvent, Token.events, Token.event,
    Place.token]

theorem trace_of_scan (free : lx.lookahead = none) (sound : lx.reader.Sound)
    (scanned : lx.scan goal = .ok (t, after)) :
    after.trace.toList = lx.trace.toList ++ t.events goal := by
  rw [scan_of_none free sound] at scanned
  cases scanned
  rw [trace_scanned, reader_of_none free]
  rfl

theorem trace_of_look (free : lx.lookahead = none) (sound : lx.reader.Sound)
    (looked : lx.look goal = .ok (t, after)) :
    after.trace.toList = lx.trace.toList ++ t.events goal ∧
      ∃ ahead, after.lookahead = some ahead ∧ ahead.goal = goal ∧ ahead.token = t := by
  have scanned := scan_of_none free sound goal
  have added := trace_of_scan free sound scanned
  simp only [look, scanned, bind, Except.bind] at looked
  cases looked
  exact ⟨added, _, rfl, rfl, rfl⟩

namespace Coherent

/-- **A pull** adds the events announced for its token. -/
theorem trace_next (coherent : lx.Coherent) (pulled : lx.next goal = .ok (t, after)) :
    after.trace.toList = lx.trace.toList ++ lx.announced goal t := by
  unfold announced
  obtain ⟨free, scanned⟩ | ⟨ahead, held, ⟨same, rfl, rfl⟩ | ⟨other, scanned⟩⟩ := next_cases pulled
  · rw [free]
    exact trace_of_scan free coherent.sound scanned
  · simp only [held]
    rw [if_pos same]
    exact (List.append_nil _).symm
  · simp only [held]
    rw [if_neg other, trace_of_scan rfl (reader_discard held ▸ coherent.sound) scanned]
    simp [discard]

/-- **A look** adds the events announced for its token, and holds the token. -/
theorem trace_peek (coherent : lx.Coherent) (looked : lx.peek goal = .ok (t, after)) :
    after.trace.toList = lx.trace.toList ++ lx.announced goal t ∧
      ∃ ahead, after.lookahead = some ahead ∧ ahead.goal = goal ∧ ahead.token = t := by
  unfold announced
  obtain ⟨free, fresh⟩ | ⟨ahead, held, ⟨same, rfl, rfl⟩ | ⟨other, fresh⟩⟩ := peek_cases looked
  · rw [free]
    exact trace_of_look free coherent.sound fresh
  · simp only [held]
    rw [if_pos same]
    exact ⟨(List.append_nil _).symm, ahead, rfl, same, rfl⟩
  · simp only [held]
    rw [if_neg other]
    obtain ⟨added, now⟩ := trace_of_look rfl (reader_discard held ▸ coherent.sound) fresh
    refine ⟨?_, now⟩
    rw [added]
    simp [discard]

end Coherent

/-! ## The replay along a session -/

/-- The events of the token looked at, the latest first. -/
def held (lx : Lexer) : List Event :=
  lx.lookahead.toList.flatMap fun ahead => (ahead.token.events ahead.goal).reverse

/-- The trace replays to the events of the token looked at, on top of events that are
settled, among which the tokens are `pulled`. -/
structure Replayed (pulled : List Event) (lx : Lexer) : Prop where
  paired : Event.Paired lx.trace.toList
  replays : ∃ settled, Event.replay lx.trace.toList = some (lx.held ++ settled) ∧
    settled.reverse.filter Event.isToken = pulled ∧
    ∀ event ∈ settled.head?, event.isLexicalError = false

theorem create_replayed (name source : String) (options : Options) :
    Replayed [] (create name source options) where
  paired := ⟨.singleton _, by rintro _ ⟨⟩; rfl, by rintro _ ⟨⟩; rfl⟩
  replays := ⟨(create name source options).trace.toList, rfl, rfl, by rintro _ ⟨⟩; rfl⟩

namespace Replayed

variable {pulled : List Event}

theorem paired_announced (replayed : Replayed pulled lx) (goal : Goal) :
    Event.Paired (lx.trace.toList ++ lx.announced goal (lx.reader.token goal)) := by
  have token : Event.Paired ((lx.reader.token goal).events goal) :=
    Event.paired_events Place.isError_token
  apply replayed.paired.append
  unfold announced
  split
  · exact token
  · rename_i ahead held
    split
    · exact Event.paired_nil
    · exact (Event.paired_discarded ahead.goal).append token

/-- **The events announced** replay to those of the token, on top of what was settled
before. -/
theorem replay_announced (replayed : Replayed pulled lx) (coherent : lx.Coherent) (goal : Goal) :
    ∃ settled, Event.replay (lx.trace.toList ++ lx.announced goal (lx.reader.token goal)) =
        some (((lx.reader.token goal).events goal).reverse ++ settled) ∧
      settled.reverse.filter Event.isToken = pulled ∧
      ∀ event ∈ settled.head?, event.isLexicalError = false := by
  obtain ⟨settled, replays, tokens, plain⟩ := replayed.replays
  refine ⟨settled, ?_, tokens, plain⟩
  unfold Event.replay at replays ⊢
  rw [List.foldlM_append, replays]
  unfold announced held
  cases look : lx.lookahead with
  | none => exact Event.foldlM_events
  | some ahead =>
      by_cases same : ahead.goal = goal
      · -- the token is handed out, and its events are those held
        have handed := (coherent.ahead ahead look).1
        simp [same, handed]
      · have cancelled : Event.cancel ahead.goal
            ((ahead.token.events ahead.goal).reverse ++ settled) = some settled :=
          Event.cancel_events plain
        simp [same, Event.replayOne, cancelled, Event.foldlM_events]

/-- **A pull** settles the events of its token. -/
theorem next (replayed : Replayed pulled lx) (coherent : lx.Coherent) (free : after.lookahead = none)
    (taken : lx.next goal = .ok (lx.reader.token goal, after)) :
    Replayed (pulled ++ [(lx.reader.token goal).event goal]) after := by
  have added := coherent.trace_next taken
  obtain ⟨settled, replays, tokens, -⟩ := replayed.replay_announced coherent goal
  refine ⟨?_, ((lx.reader.token goal).events goal).reverse ++ settled, ?_, ?_, Event.head?_events⟩
  · rw [added]
    exact replayed.paired_announced goal
  · rw [added, replays, held, free]
    rfl
  · rw [List.reverse_append, List.filter_append, tokens, List.reverse_reverse, Event.filter_events]

/-- **A look** holds the events of its token. -/
theorem peek (replayed : Replayed pulled lx) (coherent : lx.Coherent)
    (looked : lx.peek goal = .ok (lx.reader.token goal, after)) : Replayed pulled after := by
  obtain ⟨added, ahead, held, sameGoal, sameToken⟩ := coherent.trace_peek looked
  obtain ⟨settled, replays, tokens, plain⟩ := replayed.replay_announced coherent goal
  refine ⟨?_, settled, ?_, tokens, plain⟩
  · rw [added]
    exact replayed.paired_announced goal
  · rw [added, replays, Lexer.held, held, ← sameToken, ← sameGoal]
    simp

/-- **One request** for a token keeps the replay. -/
theorem serve (replayed : Replayed pulled lx) (coherent : lx.Coherent) (query : Query) :
    ∃ reply after, lx.serve query.request = .ok (reply, after) ∧ after.Coherent ∧
      Replayed (pulled ++ Exchange.pulled ⟨query.request, reply, after.place, after.log.toList⟩)
        after := by
  cases query with
  | pull goal =>
      obtain ⟨after, taken, coherentNext, -, free⟩ := coherent.next goal
      exact ⟨_, after, serve_next taken, coherentNext, replayed.next coherent free taken⟩
  | look goal =>
      obtain ⟨after, looked, coherentNext, -⟩ := coherent.peek goal
      refine ⟨_, after, serve_peek looked, coherentNext, ?_⟩
      rw [Exchange.pulled, Query.request, List.append_nil]
      exact replayed.peek coherent looked

/-- **Every session** of requests for tokens keeps the replay. -/
theorem session (replayed : Replayed pulled lx) (coherent : lx.Coherent) (queries : List Query) :
    ∃ exchanges last, lx.session (queries.map Query.request) = .ok (exchanges, last) ∧
      last.Coherent ∧ Replayed (pulled ++ exchanges.flatMap Exchange.pulled) last := by
  induction queries generalizing lx pulled with
  | nil => exact ⟨[], lx, rfl, coherent, by simpa using replayed⟩
  | cons query queries ih =>
      obtain ⟨reply, after, served, coherentNext, replayedNext⟩ := replayed.serve coherent query
      obtain ⟨exchanges, last, run, coherentLast, replayedLast⟩ := ih replayedNext coherentNext
      refine ⟨⟨query.request, reply, after.place, after.log.toList⟩ :: exchanges, last, ?_,
        coherentLast, ?_⟩
      · simp only [List.map_cons, Lexer.session, served, run, bind, Except.bind]
        rfl
      · rw [List.flatMap_cons, ← List.append_assoc]
        exact replayedLast

/-- What the replay keeps are the tokens pulled and the token looked at. -/
theorem filter_kept (lx : Lexer) (settled : List Event) :
    (lx.held ++ settled).reverse.filter Event.isToken =
      settled.reverse.filter Event.isToken ++ lx.awaited := by
  rw [List.reverse_append, List.filter_append]
  unfold held awaited
  cases lx.lookahead with
  | none => rfl
  | some ahead => simp [Event.filter_events]

end Replayed

/-- **The trace replays the tokens.** After any pulls and looks the trace can be
replayed: each look-ahead given up takes back the latest token, which is under the goal
it names, and the lexical error right before it. The tokens left are those pulled, with
the goals they were pulled under, and the one looked at. Lexical errors stand right
before the tokens of errors and nowhere else. From here a pull or a look under any goal
adds the events announced for its token: none if it was looked at under this goal, and
none for trivia passed over. -/
theorem trace_replays_pulls (name source : String) (options : Options) (queries : List Query)
    (short : source.utf8ByteSize < counterBound - 1) :
    ∃ exchanges lx kept,
      (create name source options).session (queries.map Query.request) = .ok (exchanges, lx) ∧
      Event.replay lx.trace.toList = some kept ∧
      kept.reverse.filter Event.isToken = exchanges.flatMap Exchange.pulled ++ lx.awaited ∧
      Event.Paired lx.trace.toList ∧
      ∀ goal, ∃ t pulled looked,
        lx.next goal = .ok (t, pulled) ∧
        pulled.trace.toList = lx.trace.toList ++ lx.announced goal t ∧
        lx.peek goal = .ok (t, looked) ∧
        looked.trace.toList = lx.trace.toList ++ lx.announced goal t := by
  obtain ⟨exchanges, lx, run, coherent, replayed⟩ :=
    (create_replayed name source options).session (create_coherent name options short) queries
  obtain ⟨settled, replays, tokens, -⟩ := replayed.replays
  refine ⟨exchanges, lx, lx.held ++ settled, run, replays, ?_, replayed.paired, ?_⟩
  · rw [Replayed.filter_kept, tokens]
    rfl
  · intro goal
    obtain ⟨pulled, taken, -⟩ := coherent.next goal
    obtain ⟨looked, seen, -⟩ := coherent.peek goal
    exact ⟨_, pulled, looked, taken, coherent.trace_next taken, seen, (coherent.trace_peek seen).1⟩

/-- A slash is looked at as a regular expression, which is malformed, then as a division,
and pulled; the name behind the space is looked at twice. -/
theorem trace_replays_pulls_slash :
    "/ b".utf8ByteSize < counterBound - 1 ∧
      ∃ exchanges lx kept,
        (create "a.js" "/ b" { captureTrivia := false }).session
            [.peek .regExp, .peek .div, .next .div, .peek .div, .peek .div] =
          .ok (exchanges, lx) ∧
        lx.trace.toList =
          [.created "a.js" 3 false false,
            .lexicalError "a.js" 1 0 .unterminatedRegex, .token .error 0 .regExp,
            .discarded .regExp, .token .divPunctuator 0 .div, .token .identifierName 2 .div] ∧
        Event.replay lx.trace.toList = some kept ∧
        kept.reverse.filter Event.isToken = exchanges.flatMap Exchange.pulled ++ lx.awaited ∧
        exchanges.flatMap Exchange.pulled = [.token .divPunctuator 0 .div] ∧
        lx.awaited = [.token .identifierName 2 .div] ∧
        Event.Paired lx.trace.toList := by
  obtain ⟨exchanges, lx, kept, run, replays, tokens, paired, -⟩ :=
    trace_replays_pulls "a.js" "/ b" { captureTrivia := false }
      [.look .regExp, .look .div, .pull .div, .look .div, .look .div] (by decide)
  obtain ⟨_, _, evaluated, trace, pulled, awaited⟩ :
      ∃ exchanges lx, (create "a.js" "/ b" { captureTrivia := false }).session
          [.peek .regExp, .peek .div, .next .div, .peek .div, .peek .div] =
          .ok (exchanges, lx) ∧
        lx.trace.toList =
          [.created "a.js" 3 false false,
            .lexicalError "a.js" 1 0 .unterminatedRegex, .token .error 0 .regExp,
            .discarded .regExp, .token .divPunctuator 0 .div, .token .identifierName 2 .div] ∧
        exchanges.flatMap Exchange.pulled = [.token .divPunctuator 0 .div] ∧
        lx.awaited = [.token .identifierName 2 .div] :=
    ⟨_, _, rfl, by decide, by decide, by decide⟩
  simp only [List.map_cons, List.map_nil, Query.request] at run
  rw [evaluated] at run
  cases run
  exact ⟨by decide, _, _, kept, evaluated, trace, replays, tokens, pulled, awaited, paired⟩

end Lexer

end GoalLexer
