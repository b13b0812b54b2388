import GoalLexer.Proofs.Session
import Mathlib.Data.List.Forall2

/-!
# Restarting at a token boundary

Nothing but the place is carried from one token to the next. A fresh lexer over the
text that is left gives the tokens that the lexer itself gives from there on; only the
positions are counted from another beginning. They are `Displaced` from a base: offsets
and lines by what the base counts, and columns on the first line only, because every
line begins to count its columns anew.

Reading a character keeps places displaced (`Place.Displaced.step`), whatever the base,
so also behind an error and between the two characters of CR LF. Trivia, tokens and
runs of pulls follow (`Reader.Displaced.pulls`).
-/

set_option autoImplicit false

namespace GoalLexer

/-! ## Places counted from a base -/

namespace Place

/-- The place `q` is the place `p` of the text behind `base`, counted from the start of
the whole text. -/
structure Displaced (base p q : Place) : Prop where
  counted : 1 ≤ p.line
  rest : q.rest = p.rest
  offset : q.offset = p.offset + base.offset
  line : q.line = p.line + (base.line - 1)
  column : q.column = if p.line = 1 then p.column + base.column else p.column

/-- A place is the start of the text behind it. -/
theorem displaced_start {base : Place} (counted : 1 ≤ base.line) :
    Displaced base (start base.rest) base where
  counted := Nat.le_refl 1
  rest := rfl
  offset := (Nat.zero_add _).symm
  line := by
    change base.line = 1 + (base.line - 1)
    omega
  column := (Nat.zero_add _).symm

theorem line_le_step (p : Place) : p.line ≤ p.step.line := by
  unfold step
  split
  · exact Nat.le_refl _
  · split
    · exact Nat.le_succ _
    · exact Nat.le_refl _

theorem line_le_skip (p : Place) (n : Nat) : p.line ≤ (p.skip n).line := by
  induction n generalizing p with
  | zero => exact Nat.le_refl _
  | succ n ih => exact Nat.le_trans p.line_le_step (ih p.step)

/-- Lines are counted from one. -/
theorem IsIn.one_le_line {text : List Char} {p : Place} (inside : p.IsIn text) : 1 ≤ p.line := by
  obtain ⟨n, rfl⟩ := inside
  exact (start text).line_le_skip n

namespace Displaced

variable {base p q : Place}

/-- What follows a character decides whether it ends a line, and that is the same. -/
theorem step (displaced : Displaced base p q) : Displaced base p.step q.step := by
  obtain ⟨counted, rest, offset, line, column⟩ := displaced
  refine ⟨Nat.le_trans counted p.line_le_step, by simp [rest], ?_, ?_, ?_⟩
  · rw [step_offset, step_offset, rest, offset]
    omega
  · cases unread : p.rest with
    | nil => rw [step_of_nil unread, step_of_nil (rest.trans unread), line]
    | cons c cs =>
        simp only [Place.step, rest, unread]
        split
        · dsimp only
          omega
        · exact line
  · cases unread : p.rest with
    | nil => rw [step_of_nil unread, step_of_nil (rest.trans unread), column]
    | cons c cs =>
        simp only [Place.step, rest, unread]
        split
        · -- the line after the first counts its columns anew in both
          have later : p.line + 1 ≠ 1 := by omega
          simp only [if_neg later]
        · dsimp only
          rw [column]
          split
          · omega
          · rfl

theorem skip (displaced : Displaced base p q) (n : Nat) :
    Displaced base (p.skip n) (q.skip n) := by
  induction n generalizing p q with
  | zero => exact displaced
  | succ n ih => exact ih displaced.step

variable {options : Options} {goal : Goal}

theorem piece (displaced : Displaced base p q) :
    q.piece options goal = p.piece options goal := by
  unfold Place.piece
  rw [displaced.rest]

theorem past (displaced : Displaced base p q) :
    Displaced base (p.past options goal) (q.past options goal) := by
  unfold Place.past
  rw [displaced.piece]
  exact displaced.skip _

theorem isSkipped (displaced : Displaced base p q) :
    q.isSkipped options goal = p.isSkipped options goal := by
  unfold Place.isSkipped
  rw [displaced.piece]

end Displaced

/-- The same trivia are passed over. -/
theorem Displaced.wanted (options : Options) (goal : Goal) {base p q : Place}
    (displaced : Displaced base p q) :
    Displaced base (p.wanted options goal) (q.wanted options goal) := by
  induction p using wanted_induction options goal generalizing q with
  | kept p kept =>
      have keptToo : q.isSkipped options goal = false := displaced.isSkipped.trans kept
      rw [wanted_of_not_isSkipped options goal kept, wanted_of_not_isSkipped options goal keptToo]
      exact displaced
  | skipped p skipped ih =>
      have skippedToo : q.isSkipped options goal = true := displaced.isSkipped.trans skipped
      rw [wanted_of_isSkipped options goal skipped, wanted_of_isSkipped options goal skippedToo]
      exact ih displaced.past

end Place

/-! ## Tokens and runs of pulls -/

/-- The token `u` is the token `t` of the text behind `base`, with its position counted
from the start of the whole text. -/
structure Token.Displaced (base : Place) (t u : Token) : Prop where
  kind : u.kind = t.kind
  lexeme : u.lexeme = t.lexeme
  error : u.error = t.error
  offset : u.position.offset = t.position.offset + base.offset
  line : u.position.line = t.position.line + (base.line - 1)
  column : u.position.column =
    if t.position.line = 1 then t.position.column + base.column else t.position.column

theorem Place.Displaced.token {base p q : Place} (displaced : Place.Displaced base p q)
    (options : Options) (goal : Goal) (name other : String) :
    Token.Displaced base (p.token options goal name) (q.token options goal other) := by
  have same : q.piece options goal = p.piece options goal := displaced.piece
  refine ⟨?_, ?_, ?_, displaced.offset, displaced.line, displaced.column⟩
  · exact congrArg Piece.kind same
  · exact congrArg (fun piece => String.ofList piece.lexeme) same
  · exact congrArg Piece.error? same

namespace Reader

theorem pulls_options (r : Reader) (goals : List Goal) :
    (r.pulls goals).2.options = r.options := by
  induction goals generalizing r with
  | nil => rfl
  | cons goal goals ih => exact ih (r.after goal)

/-- Two readers with the same options, the first over the text behind a base. -/
structure Displaced (base : Place) (r s : Reader) : Prop where
  options : s.options = r.options
  place : Place.Displaced base r.place s.place

namespace Displaced

variable {base : Place} {r s : Reader}

/-- **One pull** gives the displaced token, and keeps the readers displaced. -/
theorem after (displaced : Displaced base r s) (goal : Goal) :
    Token.Displaced base (r.token goal) (s.token goal) ∧
      Displaced base (r.after goal) (s.after goal) := by
  obtain ⟨options, place⟩ := displaced
  have next : Place.Displaced base (r.next goal) (s.next goal) := by
    unfold Reader.next
    rw [options]
    exact place.wanted r.options goal
  refine ⟨?_, options, ?_⟩
  · unfold Reader.token
    rw [options]
    exact next.token r.options goal r.name s.name
  · rw [after_place, after_place, options]
    exact next.past

/-- **A run of pulls** gives the displaced tokens. -/
theorem pulls (displaced : Displaced base r s) (goals : List Goal) :
    List.Forall₂ (Token.Displaced base) (r.pulls goals).1 (s.pulls goals).1 := by
  induction goals generalizing r s with
  | nil => exact .nil
  | cons goal goals ih =>
      obtain ⟨token, next⟩ := displaced.after goal
      exact .cons token (ih next)

end Displaced

end Reader

namespace Lexer

theorem create_place (name source : String) (options : Options) :
    (create name source options).place = Place.start source.toList := rfl

/-- **Scanning can be restarted at every token boundary.** After any pulls, take the
text behind the place reached, and pull it from a fresh lexer with the same options.
Whatever goals follow, the tokens are those that the first lexer goes on to give, of the
same kind, with the same lexeme and error; their offsets lack the offset of the place,
their lines what the place has counted, and the columns on the first line its column. -/
theorem pulls_restart (name other source : String) (options : Options) (goals more : List Goal)
    (short : source.utf8ByteSize < counterBound - 1) :
    ∃ tokens lx later last rest fresh freshLast,
      (create name source options).pulls goals = .ok (tokens, lx) ∧
      lx.pulls more = .ok (later, last) ∧
      Utf8.dropBytes source.toList lx.place.offset = some rest ∧
      (create other (String.ofList rest) options).pulls more = .ok (fresh, freshLast) ∧
      List.Forall₂ (Token.Displaced lx.place) fresh later := by
  obtain ⟨lx, pulled, coherent, reached⟩ := (create_coherent name options short).pulls goals
  obtain ⟨last, later, -, -⟩ := coherent.pulls more
  have inside : lx.place.IsIn source.toList := by
    have inside := (create_coherent name options short).sound.pulls goals
    rwa [← reached, reader_place] at inside
  obtain ⟨read, text, size⟩ := inside.split
  have dropped : Utf8.dropBytes source.toList lx.place.offset = some lx.place.rest := by
    rw [text, size]
    exact Utf8.dropBytes_append read lx.place.rest
  have shortRest : (String.ofList lx.place.rest).utf8ByteSize < counterBound - 1 := by
    rw [← Utf8.length_toList, text, Utf8.length_append] at short
    rw [Utf8.length_ofList]
    omega
  obtain ⟨freshLast, fresh, -, -⟩ := (create_coherent other options shortRest).pulls more
  have sameOptions : lx.reader.options = options := by
    rw [reached]
    exact Reader.pulls_options _ goals
  have displaced : Reader.Displaced lx.place
      (create other (String.ofList lx.place.rest) options).reader lx.reader := by
    refine ⟨sameOptions, ?_⟩
    rw [reader_place, reader_place, create_place, String.toList_ofList]
    exact Place.displaced_start inside.one_le_line
  exact ⟨_, lx, _, last, lx.place.rest, _, freshLast, pulled, later, dropped, fresh,
    displaced.pulls more⟩

/-- The first lexer stands behind an error and between CR and LF. The fresh one counts
the line feed as its first character, and both count the line behind it anew. -/
theorem pulls_restart_line_break :
    "x#\r\n/*é".utf8ByteSize < counterBound - 1 ∧
      ∃ tokens lx later last fresh freshLast,
        (create "a.js" "x#\r\n/*é" {}).pulls [.div, .div, .div] = .ok (tokens, lx) ∧
        lx.place.coordinates = (3, 1, 3) ∧
        lx.pulls [.regExp, .div] = .ok (later, last) ∧
        (create "b.js" "\n/*é" {}).pulls [.regExp, .div] = .ok (fresh, freshLast) ∧
        List.Forall₂ (Token.Displaced lx.place) fresh later ∧
        later.map (·.position) = [⟨"a.js", 3, 1, 3⟩, ⟨"a.js", 4, 2, 0⟩] ∧
        fresh.map (·.position) = [⟨"b.js", 0, 1, 0⟩, ⟨"b.js", 1, 2, 0⟩] := by
  obtain ⟨tokens, lx, later, last, rest, fresh, freshLast, pulled, pulledLater, dropped, pulledFresh,
    displaced⟩ := pulls_restart "a.js" "b.js" "x#\r\n/*é" {} [.div, .div, .div] [.regExp, .div]
      (by decide)
  obtain ⟨_, _, evaluated, reached, left, _, _, evaluatedLater, positions⟩ :
      ∃ tokens lx, (create "a.js" "x#\r\n/*é" {}).pulls [.div, .div, .div] = .ok (tokens, lx) ∧
        lx.place.coordinates = (3, 1, 3) ∧
        Utf8.dropBytes "x#\r\n/*é".toList lx.place.offset = some ['\n', '/', '*', 'é'] ∧
        ∃ later last, lx.pulls [.regExp, .div] = .ok (later, last) ∧
          later.map (·.position) = [⟨"a.js", 3, 1, 3⟩, ⟨"a.js", 4, 2, 0⟩] :=
    ⟨_, _, rfl, by decide, by decide, _, _, rfl, by decide⟩
  rw [evaluated] at pulled
  cases pulled
  rw [evaluatedLater] at pulledLater
  cases pulledLater
  rw [left] at dropped
  cases dropped
  obtain ⟨_, _, evaluatedFresh, freshPositions⟩ :
      ∃ fresh last, (create "b.js" "\n/*é" {}).pulls [.regExp, .div] = .ok (fresh, last) ∧
        fresh.map (·.position) = [⟨"b.js", 0, 1, 0⟩, ⟨"b.js", 1, 2, 0⟩] :=
    ⟨_, _, rfl, by decide⟩
  have same : String.ofList ['\n', '/', '*', 'é'] = "\n/*é" := rfl
  rw [same, evaluatedFresh] at pulledFresh
  cases pulledFresh
  exact ⟨by decide, _, _, _, _, _, _, evaluated, reached, evaluatedLater, evaluatedFresh, displaced,
    positions, freshPositions⟩

end Lexer

end GoalLexer
