import GoalLexer.Proofs.Session

/-!
# Callers that change the log

Between two requests a caller may add diagnostics to the log of a lexer, cut it or
clear it. A `Command` is a request or such a change, and `Lexer.drive` obeys one
command after the other.

The log then says little, but tokens and places never depend on it. A lexer is
`Aligned` with its source when its reader stands there with room for the counters,
and a token looked at is the one its reader would give; this is coherence without
the log. Without look-ahead the two are the same, and a look-ahead is handed out or
given up first, so what is known of coherent lexers carries over:

* `Aligned.next`: a pull gives the reader's token and moves the place on;
* `Aligned.peek`: a look gives the reader's token and leaves the place alone;
* a token without error adds nothing to the log.
-/

set_option autoImplicit false

namespace GoalLexer

/-- What a caller may do with a lexer. -/
inductive Command where
  | ask (request : Request)
  | emit (d : Diagnostic)
  | truncate (n : Nat)
  | clear
  deriving DecidableEq

namespace Lexer

def obey (lx : Lexer) : Command → Except Fault (Option Reply × Lexer)
  | .ask request => do
      let (reply, lx) ← lx.serve request
      return (some reply, lx)
  | .emit d => return (none, lx.mapLog (·.emit d))
  | .truncate n => return (none, lx.mapLog (·.truncate n))
  | .clear => return (none, lx.mapLog (·.clear))

/-- Obeys one command after the other. The caller sees the reply to a request, and
the place after every command. -/
def drive : List Command → Lexer → Except Fault (List (Option Reply × Place) × Lexer)
  | [], lx => .ok ([], lx)
  | command :: commands, lx => do
      let (reply, lx) ← lx.obey command
      let (replies, last) ← drive commands lx
      return ((reply, lx.place) :: replies, last)

/-! ## Requests as operations -/

section Serve

variable {lx after : Lexer} {goal : Goal} {token : Token}

/-- What a pull does: it scans without look-ahead, hands out the token looked at under
the same goal, or gives up the one looked at under another and scans. -/
theorem next_cases (pulled : lx.next goal = .ok (token, after)) :
    (lx.lookahead = none ∧ lx.scan goal = .ok (token, after)) ∨
    ∃ ahead, lx.lookahead = some ahead ∧
      ((ahead.goal = goal ∧ token = ahead.token ∧ after = { lx with lookahead := none }) ∨
        (ahead.goal ≠ goal ∧ (lx.discard ahead).scan goal = .ok (token, after))) := by
  unfold next at pulled
  cases held : lx.lookahead with
  | none =>
      rw [held] at pulled
      exact .inl ⟨rfl, pulled⟩
  | some ahead =>
      simp only [held] at pulled
      refine .inr ⟨ahead, rfl, ?_⟩
      by_cases same : ahead.goal = goal
      · rw [if_pos same] at pulled
        cases pulled
        exact .inl ⟨same, rfl, rfl⟩
      · rw [if_neg same] at pulled
        exact .inr ⟨same, pulled⟩

/-- What a look does: it looks without look-ahead, finds the token looked at under the
same goal, or gives up the one looked at under another and looks. -/
theorem peek_cases (looked : lx.peek goal = .ok (token, after)) :
    (lx.lookahead = none ∧ lx.look goal = .ok (token, after)) ∨
    ∃ ahead, lx.lookahead = some ahead ∧
      ((ahead.goal = goal ∧ token = ahead.token ∧ after = lx) ∨
        (ahead.goal ≠ goal ∧ (lx.discard ahead).look goal = .ok (token, after))) := by
  unfold peek at looked
  cases held : lx.lookahead with
  | none =>
      rw [held] at looked
      exact .inl ⟨rfl, looked⟩
  | some ahead =>
      simp only [held] at looked
      refine .inr ⟨ahead, rfl, ?_⟩
      by_cases same : ahead.goal = goal
      · rw [if_pos same] at looked
        cases looked
        exact .inl ⟨same, rfl, rfl⟩
      · rw [if_neg same] at looked
        exact .inr ⟨same, looked⟩

theorem serve_next (pulled : lx.next goal = .ok (token, after)) :
    lx.serve (.next goal) = .ok (.token token, after) := by
  simp only [serve, pulled, bind, Except.bind]
  rfl

theorem serve_peek (looked : lx.peek goal = .ok (token, after)) :
    lx.serve (.peek goal) = .ok (.token token, after) := by
  simp only [serve, looked, bind, Except.bind]
  rfl

theorem serve_tokenize {tokens : List Token} (run : lx.tokenize goal = .ok (tokens, after)) :
    lx.serve (.tokenize goal) = .ok (.tokens tokens, after) := by
  simp only [serve, run, bind, Except.bind]
  rfl

theorem serve_item (pulled : lx.next .div = .ok (token, after)) :
    lx.serve .item =
      .ok (.item (if token.isEndOfInput then none else some token), after) := by
  simp only [serve, nextItem, pulled, bind, Except.bind]
  rfl

theorem obey_ask {request : Request} {reply : Reply}
    (served : lx.serve request = .ok (reply, after)) :
    lx.obey (.ask request) = .ok (some reply, after) := by
  simp only [obey, served, bind, Except.bind]
  rfl

end Serve

/-! ## Alignment -/

@[simp] theorem reader_name (lx : Lexer) : lx.reader.name = lx.name := by
  unfold reader
  split <;> rfl

@[simp] theorem reader_options (lx : Lexer) : lx.reader.options = lx.options := by
  unfold reader
  split <;> rfl

@[simp] theorem reader_source (lx : Lexer) : lx.reader.source = lx.cursor.source := by
  unfold reader
  split <;> rfl

/-- The reader stands in the source, and a token looked at is the reader's next one,
with the cursor behind it. The log may be any. -/
structure Aligned (name source : String) (options : Options) (lx : Lexer) : Prop where
  name : lx.name = name
  source : lx.cursor.source = source
  options : lx.options = options
  sound : lx.reader.Sound
  ahead : ∀ ahead, lx.lookahead = some ahead →
    ahead.token = lx.reader.token ahead.goal ∧
      lx.cursor.place = (lx.reader.after ahead.goal).place

variable {name source : String} {options : Options} {lx : Lexer}

theorem create_aligned (name : String) {source : String} (options : Options)
    (short : source.utf8ByteSize < counterBound - 1) :
    Aligned name source options (create name source options) where
  name := rfl
  source := rfl
  options := rfl
  sound := (create_coherent name options short).sound
  ahead := by
    intro ahead held
    cases held

/-- A coherent lexer is aligned with any other that has the same source. -/
theorem Coherent.aligned {after : Lexer} (coherent : after.Coherent)
    (aligned : Aligned name source options lx) (sameName : after.reader.name = lx.reader.name)
    (sameSource : after.reader.source = lx.reader.source)
    (sameOptions : after.reader.options = lx.reader.options) :
    Aligned name source options after where
  name := by simpa [aligned.name] using sameName
  source := by simpa [aligned.source] using sameSource
  options := by simpa [aligned.options] using sameOptions
  sound := coherent.sound
  ahead := by
    intro ahead held
    obtain ⟨sameToken, moved⟩ := coherent.ahead ahead held
    exact ⟨sameToken, congrArg Reader.place moved⟩

namespace Aligned

/-- The log is the caller's to change. -/
theorem mapLog (aligned : Aligned name source options lx) (f : DiagnosticLog → DiagnosticLog) :
    Aligned name source options (lx.mapLog f) := by
  obtain ⟨sameName, sameSource, sameOptions, sound, ahead⟩ := aligned
  cases held : lx.lookahead with
  | none =>
      have free : (lx.mapLog f).lookahead = none := held
      rw [reader_of_none held] at sound
      refine ⟨sameName, sameSource, sameOptions, ?_, ?_⟩
      · rw [reader_of_none free]
        exact ⟨sound.inside, sound.room⟩
      · intro ahead impossible
        rw [free] at impossible
        cases impossible
  | some pending =>
      have still : (lx.mapLog f).lookahead = some pending := held
      have known := ahead pending held
      rw [reader_of_some held] at sound known
      refine ⟨sameName, sameSource, sameOptions, ?_, ?_⟩
      · rw [reader_of_some still]
        exact ⟨sound.inside, sound.room⟩
      · intro ahead same
        rw [still] at same
        cases same
        rw [reader_of_some still]
        exact known

/-- A token without error is not reported. -/
theorem log_after_of_not_isError (r : Reader) {goal : Goal}
    (wellFormed : (r.token goal).isError = false) : (r.after goal).log = r.log := by
  have silent : (r.token goal).report r.file = none :=
    Place.report_of_not_isError r.file wellFormed
  rw [Reader.after, silent]
  rfl

theorem next_of_none (aligned : Aligned name source options lx) (free : lx.lookahead = none)
    (goal : Goal) :
    ∃ after, lx.next goal = .ok (lx.reader.token goal, after) ∧
      Aligned name source options after ∧ after.place = (lx.reader.after goal).place ∧
      after.lookahead = none ∧ after.log = (lx.reader.after goal).log := by
  have coherent := coherent_of_none free aligned.sound
  obtain ⟨after, pulled, coherentNext, moved, freeNext⟩ := coherent.next goal
  refine ⟨after, pulled, coherentNext.aligned aligned ?_ ?_ ?_, ?_, freeNext, ?_⟩
  · rw [moved]
    rfl
  · rw [moved]
    rfl
  · rw [moved]
    rfl
  · rw [← reader_place, moved]
  · rw [log_of_none freeNext, moved]

/-- Giving up a look-ahead leaves the lexer aligned. -/
theorem discard (aligned : Aligned name source options lx) {ahead : Lookahead}
    (held : lx.lookahead = some ahead) : Aligned name source options (lx.discard ahead) where
  name := aligned.name
  source := aligned.source
  options := aligned.options
  sound := by
    rw [reader_discard held]
    exact aligned.sound
  ahead := by
    intro ahead impossible
    cases impossible

/-- **A pull** gives the reader's token, moves the place on, and leaves no
look-ahead. The log may be cut, but grows only for an error. -/
theorem next (aligned : Aligned name source options lx) (goal : Goal) :
    ∃ after, lx.next goal = .ok (lx.reader.token goal, after) ∧
      Aligned name source options after ∧ after.place = (lx.reader.after goal).place ∧
      after.lookahead = none ∧
      ((lx.reader.token goal).isError = false → after.log.toList <+: lx.log.toList) := by
  cases held : lx.lookahead with
  | none =>
      obtain ⟨after, pulled, alignedNext, moved, free, logged⟩ := aligned.next_of_none held goal
      refine ⟨after, pulled, alignedNext, moved, free, ?_⟩
      intro wellFormed
      have kept : after.log = lx.log := by
        rw [logged, log_after_of_not_isError _ wellFormed, log_of_none held]
      exact ⟨[], by rw [kept, List.append_nil]⟩
  | some ahead =>
      by_cases same : ahead.goal = goal
      · subst same
        obtain ⟨sameToken, moved⟩ := aligned.ahead ahead held
        have sound := aligned.sound.after ahead.goal
        refine ⟨{ lx with lookahead := none }, ?_, ?_, moved, rfl, fun _ => List.prefix_rfl⟩
        · simp only [Lexer.next, held, if_true, sameToken]
        · refine ⟨aligned.name, aligned.source, aligned.options, ?_, ?_⟩
          · rw [reader_of_none rfl]
            refine ⟨?_, ?_⟩
            · have inside := sound.inside
              rw [← moved] at inside
              simpa [Reader.after] using inside
            · have room := sound.room
              rwa [← moved] at room
          · intro ahead impossible
            cases impossible
      · have back := reader_discard held
        obtain ⟨after, pulled, alignedNext, moved, free, logged⟩ :=
          (aligned.discard held).next_of_none rfl goal
        rw [back] at pulled moved logged
        refine ⟨after, ?_, alignedNext, moved, free, ?_⟩
        · simp only [Lexer.next, held, if_neg same]
          exact pulled
        · intro wellFormed
          rw [logged, log_after_of_not_isError _ wellFormed, reader_of_some held,
            DiagnosticLog.toList_truncate]
          exact List.take_prefix _ _

theorem look (aligned : Aligned name source options lx) (free : lx.lookahead = none)
    (goal : Goal) :
    ∃ after, lx.look goal = .ok (lx.reader.token goal, after) ∧
      Aligned name source options after ∧ after.place = lx.place ∧
      ((lx.reader.token goal).isError = false → after.log = lx.log) := by
  obtain ⟨after, looked, coherent, stayed, ahead, held, sameGoal⟩ :=
    Coherent.look free aligned.sound goal
  refine ⟨after, looked, coherent.aligned aligned ?_ ?_ ?_, ?_, ?_⟩
  · rw [stayed]
  · rw [stayed]
  · rw [stayed]
  · rw [← reader_place, stayed, reader_place]
  · intro wellFormed
    rw [coherent.log_of_some held, sameGoal, stayed, log_after_of_not_isError _ wellFormed,
      log_of_none free]

/-- **A look** gives the reader's token and leaves the place alone. -/
theorem peek (aligned : Aligned name source options lx) (goal : Goal) :
    ∃ after, lx.peek goal = .ok (lx.reader.token goal, after) ∧
      Aligned name source options after ∧ after.place = lx.place ∧
      ((lx.reader.token goal).isError = false → after.log.toList <+: lx.log.toList) := by
  cases held : lx.lookahead with
  | none =>
      obtain ⟨after, looked, alignedNext, stayed, logged⟩ := aligned.look held goal
      refine ⟨after, ?_, alignedNext, stayed, ?_⟩
      · rw [Lexer.peek, held]
        exact looked
      · intro wellFormed
        exact ⟨[], by rw [logged wellFormed, List.append_nil]⟩
  | some ahead =>
      by_cases same : ahead.goal = goal
      · subst same
        refine ⟨lx, ?_, aligned, rfl, fun _ => List.prefix_rfl⟩
        simp only [Lexer.peek, held, if_true, (aligned.ahead ahead held).1]
      · have back := reader_discard held
        obtain ⟨after, looked, alignedNext, stayed, logged⟩ :=
          (aligned.discard held).look rfl goal
        rw [back] at looked logged
        refine ⟨after, ?_, alignedNext, ?_, ?_⟩
        · simp only [Lexer.peek, held, if_neg same]
          exact looked
        · rw [stayed, ← reader_place, back, reader_place]
        · intro wellFormed
          rw [logged wellFormed]
          simp only [Lexer.discard, DiagnosticLog.toList_truncate]
          exact List.take_prefix _ _

theorem tokenizeAux (aligned : Aligned name source options lx) (goal : Goal) (fuel : Nat) :
    ∃ tokens last, Lexer.tokenizeAux goal fuel lx = .ok (tokens, last) ∧
      Aligned name source options last := by
  induction fuel generalizing lx with
  | zero => exact ⟨[], lx, rfl, aligned⟩
  | succ fuel ih =>
      obtain ⟨after, pulled, alignedNext, -⟩ := aligned.next goal
      simp only [Lexer.tokenizeAux, pulled, bind, Except.bind]
      split
      · exact ⟨[], after, rfl, alignedNext⟩
      · obtain ⟨tokens, last, run, alignedLast⟩ := ih alignedNext
        rw [run]
        exact ⟨_, last, rfl, alignedLast⟩

/-- **One request** is served without a fault. -/
theorem serve (aligned : Aligned name source options lx) (request : Request) :
    ∃ reply after, lx.serve request = .ok (reply, after) ∧ Aligned name source options after := by
  cases request with
  | next goal =>
      obtain ⟨after, pulled, alignedNext, -⟩ := aligned.next goal
      exact ⟨_, after, serve_next pulled, alignedNext⟩
  | peek goal =>
      obtain ⟨after, looked, alignedNext, -⟩ := aligned.peek goal
      exact ⟨_, after, serve_peek looked, alignedNext⟩
  | tokenize goal =>
      obtain ⟨tokens, last, run, alignedLast⟩ :=
        aligned.tokenizeAux goal (lx.place.rest.length + 1)
      exact ⟨_, last, serve_tokenize run, alignedLast⟩
  | item =>
      obtain ⟨after, pulled, alignedNext, -⟩ := aligned.next .div
      exact ⟨_, after, serve_item pulled, alignedNext⟩

theorem obey (aligned : Aligned name source options lx) (command : Command) :
    ∃ reply after, lx.obey command = .ok (reply, after) ∧ Aligned name source options after := by
  cases command with
  | ask request =>
      obtain ⟨reply, after, served, alignedNext⟩ := aligned.serve request
      exact ⟨some reply, after, obey_ask served, alignedNext⟩
  | emit d => exact ⟨none, _, rfl, aligned.mapLog _⟩
  | truncate n => exact ⟨none, _, rfl, aligned.mapLog _⟩
  | clear => exact ⟨none, _, rfl, aligned.mapLog _⟩

/-- **Every list of commands** is obeyed without a fault. -/
theorem drive (aligned : Aligned name source options lx) (commands : List Command) :
    ∃ replies last, lx.drive commands = .ok (replies, last) ∧ Aligned name source options last := by
  induction commands generalizing lx with
  | nil => exact ⟨[], lx, rfl, aligned⟩
  | cons command commands ih =>
      obtain ⟨reply, after, obeyed, alignedNext⟩ := aligned.obey command
      obtain ⟨replies, last, run, alignedLast⟩ := ih alignedNext
      refine ⟨(reply, after.place) :: replies, last, ?_, alignedLast⟩
      simp only [Lexer.drive, obeyed, run, bind, Except.bind]
      rfl

end Aligned

end Lexer

end GoalLexer
