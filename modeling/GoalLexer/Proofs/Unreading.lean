import GoalLexer.Proofs.Safety
import GoalLexer.Proofs.Walks

/-!
# Un-reading one character

A cursor remembers one place, the one before the last character it read. What it should
remember is told by the journal of its walk, which knows nothing of that memory: it has an
entry for every character consumed, with the place before it, and one for everything that
settles what was read, which is to set the mark, to restore a snapshot, and to un-read
(`Walk.entries`). The cursor remembers the last character consumed since the last entry
that settles, and one operation after the other keeps it so (`Walk.Remembers.step`). An
operation that reads nothing makes no entry and leaves the memory alone.

Un-reading never goes back behind the mark, as long as no snapshot does
(`Cursor.FollowsMark`).
-/

set_option autoImplicit false

namespace GoalLexer

/-- The places before the characters that stand between two places. -/
def Place.upTo (p q : Place) : List Place :=
  (List.range (p.rest.length - q.rest.length)).map (p.skip ·)

theorem Place.upTo_skip (p : Place) {n : Nat} (fits : n ≤ p.rest.length) :
    p.upTo (p.skip n) = (List.range n).map (p.skip ·) := by
  rw [upTo, skip_rest, List.length_drop, Nat.sub_sub_self fits]

namespace Cursor

/-! ## The journal of a walk -/

inductive Entry where
  /-- A character was consumed, the next one at the place. -/
  | consumed (before : Place)
  /-- The mark was set, a snapshot restored, or a character un-read. -/
  | settled

/-- What an entry does to the places before the characters consumed since a settlement. -/
def Entry.note (since : List Place) : Entry → List Place
  | consumed before => since ++ [before]
  | settled => []

/-- The places before the characters consumed since the last settlement, or since the
beginning. -/
def consumedSince (journal : List Entry) : List Place := journal.foldl Entry.note []

theorem foldl_note_consumed (since places : List Place) :
    (places.map Entry.consumed).foldl Entry.note since = since ++ places := by
  induction places generalizing since with
  | nil => exact (List.append_nil since).symm
  | cons p places ih =>
      rw [List.map_cons, List.foldl_cons, ih]
      exact List.append_assoc since [p] places

namespace Walk

/-- The entries of an operation. What was consumed is seen from where the cursor was and
where it is. -/
def entries (w after : Walk) : Operation → List Entry
  | .backup => if w.cursor.backup.isOk then [.settled] else []
  | .mark => [.settled]
  | .snapshot => []
  | .restore index => if index < w.snapshots.length then [.settled] else []
  | .advance | .eat _ | .eatIf _ | .eatWhile _ | .eatText _ =>
      (w.cursor.place.upTo after.cursor.place).map .consumed

def journal : List Operation → Walk → List Entry
  | [], _ => []
  | operation :: operations, w =>
      match w.perform operation with
      | .ok after => w.entries after operation ++ journal operations after
      | .error _ => []

theorem entries_of_isReading {operation : Operation} (reading : operation.isReading = true)
    (w after : Walk) :
    w.entries after operation = (w.cursor.place.upTo after.cursor.place).map .consumed := by
  cases operation with
  | advance | eat | eatIf | eatWhile | eatText => rfl
  | backup | mark | snapshot | restore => cases reading

end Walk

/-! ## What is remembered -/

/-- The last of the characters read is the one remembered. -/
theorem readBy_previous {c : Cursor} {n : Nat} (fits : n < c.place.rest.length) :
    (c.readBy (n + 1)).previous = some (c.place.skip n) := by
  induction n generalizing c with
  | zero =>
      obtain ⟨ch, rest, unread⟩ := List.exists_cons_of_length_pos fits
      simp only [readBy, read, unread, Place.skip_zero]
  | succ n ih =>
      have fitsNext : n < c.read.place.rest.length := by
        rw [read_place, Place.step_rest, List.length_drop]
        omega
      rw [readBy, ih fitsNext, read_place, ← Place.skip_succ]

namespace Walk

/-- The cursor remembers the last of the places, and stands one character behind it. -/
structure Remembers (since : List Place) (w : Walk) : Prop where
  previous : w.cursor.previous = since.getLast?
  behind : ∀ p, w.cursor.previous = some p → w.cursor.place = p.step ∧ p.rest ≠ []

namespace Remembers

variable {since : List Place} {w after last : Walk}

theorem nothing {w : Walk} (none : w.cursor.previous = none) : Remembers [] w where
  previous := none
  behind := by
    intro p some
    rw [none] at some
    cases some

/-- **One operation** keeps in memory what the journal tells. -/
theorem step (remembers : Remembers since w) {operation : Operation}
    (step : Step w operation after) :
    Remembers ((w.entries after operation).foldl Entry.note since) after := by
  cases step with
  | read n reading fits =>
      rw [entries_of_isReading reading, readBy_place, Place.upTo_skip _ fits, foldl_note_consumed]
      cases n with
      | zero =>
          rw [List.range_zero, List.map_nil, List.append_nil]
          exact remembers
      | succ n =>
          have memory := readBy_previous fits
          refine ⟨?_, ?_⟩
          · rw [memory, List.range_succ, List.map_append, ← List.append_assoc]
            exact List.getLast?_concat.symm
          · intro p some
            rw [memory] at some
            cases some
            refine ⟨?_, ?_⟩
            · rw [readBy_place, Place.skip_add]
              rfl
            · rw [Place.skip_rest]
              exact List.ne_nil_of_length_pos (by rw [List.length_drop]; omega)
  | @unread p history =>
      have settles : w.entries { w with cursor := w.cursor.restore p } .backup = [.settled] := by
        simp only [entries, backup, history]
        rfl
      rw [settles]
      exact nothing rfl
  | noHistory history =>
      have silent : w.entries w .backup = [] := by
        simp only [entries, backup, history]
        rfl
      rw [silent]
      exact remembers
  | mark => exact nothing rfl
  | snapshot => exact ⟨remembers.previous, remembers.behind⟩
  | restore taken =>
      have known := (List.getElem?_eq_some_iff.1 taken).1
      rw [entries, if_pos known]
      exact nothing rfl
  | noSnapshot missing =>
      have unknown := Nat.not_lt.2 (List.getElem?_eq_none_iff.1 missing)
      rw [entries, if_neg unknown]
      exact remembers

/-- **All operations** do. -/
theorem steps (remembers : Remembers since w) {operations : List Operation}
    (steps : Steps w operations last) :
    Remembers ((w.journal operations).foldl Entry.note since) last := by
  induction steps generalizing since with
  | nil => exact remembers
  | cons performed step rest ih =>
      simp only [journal, performed, List.foldl_append]
      exact ih (remembers.step step)

end Remembers

end Walk

/-! ## The mark -/

/-- No snapshot is restored after the mark was last set, or the mark is never set. -/
def NoRestoreSinceMark (operations : List Operation) : Prop :=
  .mark ∉ operations ∨
    ∃ earlier later, operations = earlier ++ .mark :: later ∧ ∀ index, .restore index ∉ later

/-- The cursor is behind its mark, and so is what it may un-read. -/
structure FollowsMark (c : Cursor) : Prop where
  place : ∃ n, c.place = c.mark.skip n
  previous : ∀ p, c.previous = some p → ∃ n, p = c.mark.skip n

namespace FollowsMark

variable {c : Cursor}

theorem setMark (c : Cursor) : c.setMark.FollowsMark where
  place := ⟨0, rfl⟩
  previous := by
    intro p some
    cases some

theorem restore {p : Place} (behind : ∃ n, p = c.mark.skip n) : (c.restore p).FollowsMark where
  place := behind
  previous := by
    intro p some
    cases some

theorem readBy (follows : c.FollowsMark) {n : Nat} (fits : n ≤ c.place.rest.length) :
    (c.readBy n).FollowsMark := by
  obtain ⟨m, reached⟩ := follows.place
  refine ⟨⟨m + n, ?_⟩, ?_⟩
  · rw [readBy_place, readBy_mark, reached, Place.skip_add]
  · cases n with
    | zero => exact follows.previous
    | succ n =>
        intro p some
        rw [readBy_previous fits] at some
        cases some
        exact ⟨m + n, by rw [readBy_mark, reached, Place.skip_add]⟩

theorem step {w after : Walk} (follows : w.cursor.FollowsMark) {operation : Operation}
    (step : w.Step operation after) (stays : ∀ index, operation ≠ .restore index) :
    after.cursor.FollowsMark := by
  cases step with
  | read n reading fits => exact follows.readBy fits
  | unread history => exact restore (follows.previous _ history)
  | noHistory history => exact follows
  | mark => exact setMark w.cursor
  | snapshot => exact follows
  | restore taken => exact absurd rfl (stays _)
  | noSnapshot missing => exact follows

theorem steps {w last : Walk} (follows : w.cursor.FollowsMark) {operations : List Operation}
    (steps : w.Steps operations last) (stays : ∀ index, .restore index ∉ operations) :
    last.cursor.FollowsMark := by
  induction steps with
  | nil => exact follows
  | cons performed step rest ih =>
      refine ih (follows.step step ?_) ?_
      · rintro index rfl
        exact stays index List.mem_cons_self
      · intro index listed
        exact stays index (List.mem_cons_of_mem _ listed)

end FollowsMark

namespace Walk

variable {source : String} {w last : Walk} {operations : List Operation}

theorem Steps.mark_eq (steps : w.Steps operations last) (unmarked : .mark ∉ operations) :
    last.cursor.mark = w.cursor.mark := by
  induction steps with
  | nil => rfl
  | cons performed step rest ih =>
      rw [ih fun listed => unmarked (List.mem_cons_of_mem _ listed)]
      cases step with
      | read n reading fits => exact readBy_mark _ n
      | mark => exact absurd List.mem_cons_self unmarked
      | unread | noHistory | snapshot | restore | noSnapshot => rfl

/-- Without a restore since the last mark the cursor is behind its mark. -/
theorem Steps.followsMark (steps : (ofText source).Steps operations last)
    (stays : NoRestoreSinceMark operations) : last.cursor.FollowsMark := by
  rcases stays with unmarked | ⟨earlier, later, rfl, stays⟩
  · -- the mark is the beginning of the text, and nothing is before it
    have inside := ((inside_ofText source).steps steps).cursor
    have marked : last.cursor.mark = Place.start source.toList := steps.mark_eq unmarked
    exact ⟨by rw [marked]; exact inside.place, by rw [marked]; exact inside.previous⟩
  · obtain ⟨mid, -, behind⟩ := steps.exists_of_append
    cases behind with
    | cons performed step rest =>
        cases step with
        | mark => exact (FollowsMark.setMark mid.cursor).steps rest stays
        | read n reading fits => cases reading

theorem Rooted.exists_sliceable (rooted : w.Rooted source) (follows : w.cursor.FollowsMark) :
    ∃ text, w.cursor.Sliceable text := by
  obtain ⟨n, ahead⟩ := follows.place
  refine ⟨_, sliceable_of_skip ?_ ahead⟩
  rw [rooted.source]
  exact rooted.mark

end Walk

/-- **One character can be un-read.** After any operations, un-reading faults if no
character was consumed since the beginning, the last mark, the last snapshot restored and
the last character un-read. Otherwise it goes back to the place, with its line and column,
before the last character consumed, which is one character before, and leaves the mark
alone. If no snapshot was restored since the last mark, the mark is not ahead and the text
since the mark can be cut out, also after a character is un-read. -/
theorem backup_unreads_last_consumed (source : String)
    (short : source.utf8ByteSize < counterBound - 1) (operations : List Operation) :
    ∃ walk, (Walk.ofText source).run operations = .ok walk ∧
      (walk.cursor.backup = .error .nothingToUnread ↔
        consumedSince ((Walk.ofText source).journal operations) = []) ∧
      (∀ before,
        (consumedSince ((Walk.ofText source).journal operations)).getLast? = some before →
          walk.cursor.place = before.step ∧ before.rest ≠ [] ∧
          ∃ c, walk.cursor.backup = .ok c ∧ c.place = before ∧ c.mark = walk.cursor.mark) ∧
      (NoRestoreSinceMark operations →
        (∃ text, walk.cursor.Sliceable text) ∧
        ∀ c, walk.cursor.backup = .ok c → ∃ text, c.Sliceable text) := by
  obtain ⟨walk, run, steps⟩ := (Walk.inside_ofText source).exists_steps short operations
  have remembers : Walk.Remembers _ walk := Walk.Remembers.steps (.nothing rfl) steps
  change Walk.Remembers (consumedSince ((Walk.ofText source).journal operations)) walk at remembers
  refine ⟨walk, run, ?_, ?_, ?_⟩
  · rw [← List.getLast?_eq_none_iff, ← remembers.previous]
    unfold backup
    cases walk.cursor.previous with
    | none => simp
    | some p => simp
  · intro before consumed
    have memory := remembers.previous.trans consumed
    obtain ⟨stands, unread⟩ := remembers.behind before memory
    refine ⟨stands, unread, walk.cursor.restore before, ?_, rfl, rfl⟩
    simp only [backup, memory]
  · intro stays
    have rooted := (Walk.rooted_ofText source).steps steps
    have follows := steps.followsMark stays
    refine ⟨rooted.exists_sliceable follows, ?_⟩
    intro c unread
    unfold backup at unread
    cases history : walk.cursor.previous with
    | none =>
        rw [history] at unread
        cases unread
    | some p =>
        rw [history] at unread
        cases unread
        have step : walk.Step .backup { walk with cursor := walk.cursor.restore p } :=
          .unread history
        exact (rooted.step step).exists_sliceable (follows.step step (by simp))

/-- Between the CR and the LF: the character un-read is the LF, although a snapshot was
taken and a text not found since it was consumed, and the mark was set at the CR. -/
theorem backup_unreads_last_consumed_pair :
    "a\r\nb".utf8ByteSize < counterBound - 1 ∧
      ∃ walk c,
        (Walk.ofText "a\r\nb").run
            [.advance, .mark, .eatWhile isLineTerminator, .snapshot, .eatText "bb"] = .ok walk ∧
        walk.cursor.place.coordinates = (3, 2, 0) ∧
        walk.cursor.backup = .ok c ∧ c.place.coordinates = (2, 1, 2) ∧
        ∃ text, c.Sliceable text := by
  obtain ⟨walk, run, -, unreads, sliceable⟩ := backup_unreads_last_consumed "a\r\nb" (by decide)
    [.advance, .mark, .eatWhile isLineTerminator, .snapshot, .eatText "bb"]
  obtain ⟨_, evaluated, reached⟩ :
      ∃ walk, (Walk.ofText "a\r\nb").run
          [.advance, .mark, .eatWhile isLineTerminator, .snapshot, .eatText "bb"] = .ok walk ∧
        walk.cursor.place.coordinates = (3, 2, 0) := ⟨_, rfl, by decide⟩
  rw [evaluated] at run
  cases run
  obtain ⟨-, -, c, unread, back, -⟩ := unreads ⟨['\n', 'b'], 2, 1, 2⟩ rfl
  have stays : NoRestoreSinceMark
      [.advance, .mark, .eatWhile isLineTerminator, .snapshot, .eatText "bb"] :=
    .inr ⟨[.advance], [.eatWhile isLineTerminator, .snapshot, .eatText "bb"], rfl, by simp⟩
  exact ⟨by decide, _, c, evaluated, reached, unread, by rw [back]; rfl,
    (sliceable stays).2 c unread⟩

end Cursor

end GoalLexer
