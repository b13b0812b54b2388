import GoalLexer.Proofs.Session

/-!
# Looks are transparent

Looking at a token leaves the reader where it is, so a session and the same
session without its looks have the same reader behind them, and every other
request is answered alike (`Reader.session_filter`). `Lexer.peeks_are_transparent`
is the statement for lexers: goals may change between looks and pulls at will, and
the look-ahead that is held, handed out or given up on the way never shows.
-/

set_option autoImplicit false

namespace GoalLexer

/-- The requests that are not looks. -/
def Request.withoutPeeks (requests : List Request) : List Request :=
  requests.filter (fun request => !request.isPeek)

/-- The exchanges that are not looks. -/
def Exchange.withoutPeeks (exchanges : List Exchange) : List Exchange :=
  exchanges.filter (fun exchange => !exchange.request.isPeek)

namespace Reader

theorem serve_of_isPeek {r : Reader} {request : Request} (looks : request.isPeek = true) :
    (r.serve request).2 = r := by
  cases request with
  | peek goal => rfl
  | _ => cases looks

/-- Leaving the looks out of a session leaves them out of the answers, and ends in
the same reader. -/
theorem session_filter (r : Reader) (requests : List Request) :
    r.session (Request.withoutPeeks requests) =
      (Exchange.withoutPeeks (r.session requests).1, (r.session requests).2) := by
  induction requests generalizing r with
  | nil => rfl
  | cons request requests ih =>
      unfold Request.withoutPeeks Exchange.withoutPeeks at ih ⊢
      cases looks : request.isPeek with
      | true =>
          have stays := serve_of_isPeek (r := r) looks
          simp only [session, List.filter_cons, looks, stays, Bool.not_true, Bool.false_eq_true,
            if_false, ih]
      | false =>
          simp only [session, List.filter_cons, looks, Bool.not_false, if_true, ih]

end Reader

namespace Lexer

/-- **Looks are transparent.** A session and the same session without its looks
answer every other request alike: the same reply, the same place after it, the
same diagnostics after it. Behind the two the place is the same, and there a look
under any goal gives the token that a pull under that goal gives, and does not
move. Every point of a session is the end of a shorter one. -/
theorem peeks_are_transparent (name source : String) (options : Options)
    (requests : List Request) (short : source.utf8ByteSize < counterBound - 1) :
    ∃ exchanges lx pulls free,
      (create name source options).session requests = .ok (exchanges, lx) ∧
      (create name source options).session (Request.withoutPeeks requests) = .ok (pulls, free) ∧
      Exchange.withoutPeeks exchanges = pulls ∧
      lx.place = free.place ∧
      ∀ goal, ∃ token looked pulled, lx.peek goal = .ok (token, looked) ∧
        lx.next goal = .ok (token, pulled) ∧ looked.place = free.place := by
  have start := create_coherent name options short
  obtain ⟨lx, run, coherent, reached⟩ := start.session requests
  obtain ⟨free, freeRun, -, freeReached⟩ := start.session (Request.withoutPeeks requests)
  rw [Reader.session_filter] at freeRun freeReached
  have samePlace : lx.place = free.place := by
    rw [← reader_place, ← reader_place, reached, freeReached]
  refine ⟨_, lx, _, free, run, freeRun, rfl, samePlace, ?_⟩
  intro goal
  obtain ⟨looked, peeked, -, stayed, -⟩ := coherent.peek goal
  obtain ⟨pulled, taken, -⟩ := coherent.next goal
  refine ⟨lx.reader.token goal, looked, pulled, peeked, taken, ?_⟩
  rw [← samePlace, ← reader_place looked, stayed, reader_place]

/-- A slash is looked at as a regular expression, which has no end, and pulled as
a division; a brace is looked at as a template, which has no end, and pulled as a
punctuator. The errors of the looks are gone. -/
theorem peeks_are_transparent_slash :
    "a/\x7d".utf8ByteSize < counterBound - 1 ∧
      ∃ exchanges lx pulls free,
        (create "a.js" "a/\x7d" {}).session
            [.next .div, .peek .regExp, .next .div, .peek .templateTail, .item] =
          .ok (exchanges, lx) ∧
        (create "a.js" "a/\x7d" {}).session [.next .div, .next .div, .item] = .ok (pulls, free) ∧
        Exchange.withoutPeeks exchanges = pulls ∧
        lx.place = free.place ∧
        ∀ goal, ∃ token looked pulled, lx.peek goal = .ok (token, looked) ∧
          lx.next goal = .ok (token, pulled) ∧ looked.place = free.place :=
  ⟨by decide, peeks_are_transparent "a.js" "a/\x7d" {}
    [.next .div, .peek .regExp, .next .div, .peek .templateTail, .item] (by decide)⟩

end Lexer

end GoalLexer
