import GoalLexer.Proofs.Reader

/-!
# Sessions

A session is a list of requests to one lexer, and what the caller sees of each:
the reply, the place after it and the diagnostics after it. `Lexer.pulls` is the
session of pulls alone.

A coherent lexer serves every session without a fault, and answers as its reader
does: `Coherent.session` for requests of all kinds, `Coherent.pulls` for pulls.
-/

set_option autoImplicit false

namespace GoalLexer

/-- What a caller may ask of a lexer. -/
inductive Request where
  | next (goal : Goal)
  | peek (goal : Goal)
  | tokenize (goal : Goal)
  /-- The next token of the iteration. -/
  | item
  deriving DecidableEq, Repr

def Request.isPeek : Request → Bool
  | peek _ => true
  | _ => false

inductive Reply where
  | token (token : Token)
  | tokens (tokens : List Token)
  | item (token : Option Token)
  deriving DecidableEq, Repr

/-- The tokens of a reply. -/
def Reply.returned : Reply → List Token
  | token t => [t]
  | tokens ts => ts
  | item t => t.toList

/-- A request with what the caller sees of it. -/
structure Exchange where
  request : Request
  reply : Reply
  /-- The place after the request. -/
  place : Place
  /-- All diagnostics after the request. -/
  diagnostics : List Diagnostic
  deriving DecidableEq

namespace Lexer

/-- Pulls one token for each goal. -/
def pulls : List Goal → Lexer → Except Fault (List Token × Lexer)
  | [], lx => .ok ([], lx)
  | goal :: goals, lx => do
      let (token, lx) ← lx.next goal
      let (tokens, lx) ← pulls goals lx
      return (token :: tokens, lx)

def serve (lx : Lexer) : Request → Except Fault (Reply × Lexer)
  | .next goal => do
      let (token, lx) ← lx.next goal
      return (.token token, lx)
  | .peek goal => do
      let (token, lx) ← lx.peek goal
      return (.token token, lx)
  | .tokenize goal => do
      let (tokens, lx) ← lx.tokenize goal
      return (.tokens tokens, lx)
  | .item => do
      let (token, lx) ← lx.nextItem
      return (.item token, lx)

/-- Serves one request after the other. -/
def session : List Request → Lexer → Except Fault (List Exchange × Lexer)
  | [], lx => .ok ([], lx)
  | request :: requests, lx => do
      let (reply, lx) ← lx.serve request
      let (exchanges, last) ← session requests lx
      return (⟨request, reply, lx.place, lx.log.toList⟩ :: exchanges, last)

end Lexer

namespace Reader

def pulls : List Goal → Reader → List Token × Reader
  | [], r => ([], r)
  | goal :: goals, r =>
      let (tokens, last) := pulls goals (r.after goal)
      (r.token goal :: tokens, last)

def tokenizeAux (goal : Goal) : (fuel : Nat) → Reader → List Token × Reader
  | 0, r => ([], r)
  | fuel + 1, r =>
      if (r.token goal).isEndOfInput then ([], r.after goal)
      else
        let (tokens, last) := tokenizeAux goal fuel (r.after goal)
        (r.token goal :: tokens, last)

def tokenize (r : Reader) (goal : Goal) : List Token × Reader :=
  tokenizeAux goal (r.place.rest.length + 1) r

def serve (r : Reader) : Request → Reply × Reader
  | .next goal => (.token (r.token goal), r.after goal)
  | .peek goal => (.token (r.token goal), r)
  | .tokenize goal => (.tokens (r.tokenize goal).1, (r.tokenize goal).2)
  | .item =>
      (.item (if (r.token .div).isEndOfInput then none else some (r.token .div)), r.after .div)

/-- The diagnostics that a caller sees after a request: a look shows those of the
token looked at. -/
def seen (r : Reader) : Request → List Diagnostic
  | .peek goal => (r.after goal).log.toList
  | request => (r.serve request).2.log.toList

theorem seen_of_not_isPeek {r : Reader} {request : Request} (consumes : request.isPeek = false) :
    r.seen request = (r.serve request).2.log.toList := by
  cases request with
  | peek goal => cases consumes
  | _ => rfl

def session : List Request → Reader → List Exchange × Reader
  | [], r => ([], r)
  | request :: requests, r =>
      let (exchanges, last) := session requests (r.serve request).2
      (⟨request, (r.serve request).1, (r.serve request).2.place, r.seen request⟩ :: exchanges, last)

theorem Sound.pulls {r : Reader} (sound : r.Sound) (goals : List Goal) :
    (r.pulls goals).2.place.IsIn r.source.toList := by
  induction goals generalizing r with
  | nil => exact sound.inside
  | cons goal goals ih => exact ih (sound.after goal)

end Reader

namespace Lexer.Coherent

theorem pulls {lx : Lexer} (coherent : lx.Coherent) (goals : List Goal) :
    ∃ last, lx.pulls goals = .ok ((lx.reader.pulls goals).1, last) ∧ last.Coherent ∧
      last.reader = (lx.reader.pulls goals).2 := by
  induction goals generalizing lx with
  | nil => exact ⟨lx, rfl, coherent, rfl⟩
  | cons goal goals ih =>
      obtain ⟨after, pulled, coherent, moved, -⟩ := coherent.next goal
      obtain ⟨last, rest, coherent, done⟩ := ih coherent
      refine ⟨last, ?_, coherent, ?_⟩
      · simp only [Lexer.pulls, Reader.pulls, pulled, rest, moved, bind, Except.bind]
        rfl
      · rw [done, moved]
        rfl

theorem tokenizeAux {lx : Lexer} (coherent : lx.Coherent) (goal : Goal) (fuel : Nat) :
    ∃ last, Lexer.tokenizeAux goal fuel lx = .ok ((lx.reader.tokenizeAux goal fuel).1, last) ∧
      last.Coherent ∧ last.reader = (lx.reader.tokenizeAux goal fuel).2 ∧
      (lx.lookahead = none ∨ 0 < fuel → last.lookahead = none) := by
  induction fuel generalizing lx with
  | zero =>
      refine ⟨lx, rfl, coherent, rfl, ?_⟩
      rintro (free | impossible)
      · exact free
      · cases impossible
  | succ fuel ih =>
      obtain ⟨after, pulled, coherent, moved, free⟩ := coherent.next goal
      simp only [Lexer.tokenizeAux, Reader.tokenizeAux, pulled, bind, Except.bind]
      split
      · exact ⟨after, rfl, coherent, moved, fun _ => free⟩
      · obtain ⟨last, rest, coherent, done, released⟩ := ih coherent
        rw [moved] at rest done
        refine ⟨last, ?_, coherent, done, fun _ => released (Or.inl free)⟩
        rw [rest]
        rfl

theorem tokenize {lx : Lexer} (coherent : lx.Coherent) (goal : Goal) :
    ∃ last, lx.tokenize goal = .ok ((lx.reader.tokenize goal).1, last) ∧ last.Coherent ∧
      last.reader = (lx.reader.tokenize goal).2 ∧ last.lookahead = none := by
  obtain ⟨last, run, coherent, done, released⟩ :=
    coherent.tokenizeAux goal (lx.place.rest.length + 1)
  refine ⟨last, ?_, coherent, ?_, released (Or.inr (Nat.succ_pos _))⟩
  · rw [Lexer.tokenize, run, Reader.tokenize, reader_place]
  · rw [done, Reader.tokenize, reader_place]

/-- **One request.** The lexer replies as its reader does, and shows the
diagnostics that the reader predicts. -/
theorem serve {lx : Lexer} (coherent : lx.Coherent) (request : Request) :
    ∃ after, lx.serve request = .ok ((lx.reader.serve request).1, after) ∧ after.Coherent ∧
      after.reader = (lx.reader.serve request).2 ∧ after.log.toList = lx.reader.seen request ∧
      (request.isPeek = false → after.lookahead = none) := by
  cases request with
  | next goal =>
      obtain ⟨after, pulled, coherent, moved, free⟩ := coherent.next goal
      refine ⟨after, ?_, coherent, moved, ?_, fun _ => free⟩
      · simp only [Lexer.serve, pulled, bind, Except.bind]
        rfl
      · rw [Reader.seen_of_not_isPeek rfl, log_of_none free, moved]
        rfl
  | peek goal =>
      obtain ⟨after, looked, coherent, stayed, ahead, held, sameGoal⟩ := coherent.peek goal
      refine ⟨after, ?_, coherent, stayed, ?_, fun impossible => by cases impossible⟩
      · simp only [Lexer.serve, looked, bind, Except.bind]
        rfl
      · rw [Reader.seen, coherent.log_of_some held, stayed, sameGoal]
  | tokenize goal =>
      obtain ⟨last, run, coherent, done, free⟩ := coherent.tokenize goal
      refine ⟨last, ?_, coherent, done, ?_, fun _ => free⟩
      · simp only [Lexer.serve, run, bind, Except.bind]
        rfl
      · rw [Reader.seen_of_not_isPeek rfl, log_of_none free, done]
        rfl
  | item =>
      obtain ⟨after, pulled, coherent, moved, free⟩ := coherent.next .div
      refine ⟨after, ?_, coherent, moved, ?_, fun _ => free⟩
      · simp only [Lexer.serve, nextItem, pulled, bind, Except.bind]
        rfl
      · rw [Reader.seen_of_not_isPeek rfl, log_of_none free, moved]
        rfl

/-- **Every session** is served without a fault, as the reader predicts. -/
theorem session {lx : Lexer} (coherent : lx.Coherent) (requests : List Request) :
    ∃ last, lx.session requests = .ok ((lx.reader.session requests).1, last) ∧ last.Coherent ∧
      last.reader = (lx.reader.session requests).2 := by
  induction requests generalizing lx with
  | nil => exact ⟨lx, rfl, coherent, rfl⟩
  | cons request requests ih =>
      obtain ⟨after, served, coherent, moved, shown, -⟩ := coherent.serve request
      obtain ⟨last, rest, coherent, done⟩ := ih coherent
      rw [moved] at rest done
      refine ⟨last, ?_, coherent, ?_⟩
      · simp only [Lexer.session, Reader.session, served, rest, bind, Except.bind, shown,
          ← reader_place, moved]
        rfl
      · rw [done]
        rfl

end Lexer.Coherent

end GoalLexer
