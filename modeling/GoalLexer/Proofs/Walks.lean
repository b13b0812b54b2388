import GoalLexer.Proofs.Places

/-!
# Bare cursors

A `Cursor.Walk` is a cursor with the snapshots taken from it, under all the operations a
caller has. `Walk.Step` says what each of them does: the operations that read differ only
in how many characters they read, and the others set the mark, take or restore a
snapshot, or un-read a character. With room every operation is such a step
(`Walk.exists_step`), so what holds of all walks is shown step by step.

The cursor, what it may un-read, its mark and all its snapshots lie in the text, whatever
has been done (`Walk.Inside.run`, `Walk.Rooted.steps`).
-/

set_option autoImplicit false

namespace GoalLexer

namespace Cursor

/-- What a caller may do with a cursor. Looking at the text changes nothing and is left
out. -/
inductive Operation where
  | advance
  | backup
  | eat (expected : Char)
  | eatIf (p : Char → Bool)
  | eatWhile (p : Char → Bool)
  | eatText (text : String)
  | mark
  | snapshot
  /-- Goes back to a snapshot, counted from the first one taken. -/
  | restore (index : Nat)

/-- A cursor with the snapshots taken from it. -/
structure Walk where
  cursor : Cursor
  snapshots : List Place

namespace Walk

def ofText (source : String) : Walk := ⟨.ofText source, []⟩

/-- Performs an operation. With nothing to un-read, or without the snapshot, nothing
changes. -/
def perform (w : Walk) : Operation → Except Fault Walk
  | .advance => do
      let (_, cursor) ← w.cursor.advance
      return { w with cursor }
  | .backup =>
      match w.cursor.backup with
      | .ok cursor => .ok { w with cursor }
      | .error _ => .ok w
  | .eat expected => do
      let (_, cursor) ← w.cursor.eat expected
      return { w with cursor }
  | .eatIf p => do
      let (_, cursor) ← w.cursor.eatIf p
      return { w with cursor }
  | .eatWhile p => do
      let (_, cursor) ← w.cursor.eatWhile p
      return { w with cursor }
  | .eatText text => do
      let (_, cursor) ← w.cursor.eatText text
      return { w with cursor }
  | .mark => .ok { w with cursor := w.cursor.setMark }
  | .snapshot => .ok { w with snapshots := w.snapshots ++ [w.cursor.place] }
  | .restore index =>
      match w.snapshots[index]? with
      | some place => .ok { w with cursor := w.cursor.restore place }
      | none => .ok w

def run : List Operation → Walk → Except Fault Walk
  | [], w => .ok w
  | operation :: operations, w => do
      let w ← w.perform operation
      run operations w

end Walk

/-- The cursor stands in a text, and so does what it may un-read. -/
structure IsIn (text : List Char) (c : Cursor) : Prop where
  place : c.place.IsIn text
  previous : ∀ p, c.previous = some p → p.IsIn text

namespace IsIn

variable {text : List Char} {c : Cursor}

theorem restore (c : Cursor) {p : Place} (inside : p.IsIn text) : (c.restore p).IsIn text where
  place := inside
  previous := by
    intro p impossible
    cases impossible

theorem setMark (inside : c.IsIn text) : c.setMark.IsIn text where
  place := inside.place
  previous := by
    intro p impossible
    cases impossible

theorem read (inside : c.IsIn text) : c.read.IsIn text := by
  refine ⟨?_, ?_⟩
  · rw [read_place]
    exact inside.place.skip 1
  · unfold Cursor.read
    split
    · exact inside.previous
    · rintro _ ⟨⟩
      exact inside.place

theorem readBy (inside : c.IsIn text) (n : Nat) : (c.readBy n).IsIn text := by
  induction n generalizing c with
  | zero => exact inside
  | succ n ih => exact ih inside.read

end IsIn

/-! ## Steps -/

/-- The operations that read, if the text has what they want. -/
def Operation.isReading : Operation → Bool
  | advance | eat _ | eatIf _ | eatWhile _ | eatText _ => true
  | backup | mark | snapshot | restore _ => false

/-- Reading one character reads one, unless the text is at its end. -/
theorem exists_read_eq (c : Cursor) : ∃ n ≤ c.place.rest.length, c.read = c.readBy n := by
  cases unread : c.place.rest with
  | nil =>
      refine ⟨0, Nat.zero_le _, ?_⟩
      simp only [read, unread, readBy]
  | cons ch rest => exact ⟨1, Nat.succ_pos _, rfl⟩

theorem exists_eatIf_eq {c : Cursor} (room : c.place.HasRoom) (p : Char → Bool) :
    ∃ read, ∃ n ≤ c.place.rest.length, c.eatIf p = .ok (read, c.readBy n) := by
  unfold eatIf
  split
  · obtain ⟨n, fits, same⟩ := c.exists_read_eq
    exact ⟨c.peek, n, fits, by rw [advance_eq_read room, same]⟩
  · exact ⟨none, 0, Nat.zero_le _, rfl⟩

namespace Walk

/-- What an operation does to a walk. -/
inductive Step (w : Walk) : Operation → Walk → Prop
  | read {operation : Operation} (n : Nat) (reading : operation.isReading = true)
      (fits : n ≤ w.cursor.place.rest.length) :
      Step w operation { w with cursor := w.cursor.readBy n }
  | unread {p : Place} (history : w.cursor.previous = some p) :
      Step w .backup { w with cursor := w.cursor.restore p }
  | noHistory (history : w.cursor.previous = none) : Step w .backup w
  | mark : Step w .mark { w with cursor := w.cursor.setMark }
  | snapshot : Step w .snapshot { w with snapshots := w.snapshots ++ [w.cursor.place] }
  | restore {index : Nat} {p : Place} (taken : w.snapshots[index]? = some p) :
      Step w (.restore index) { w with cursor := w.cursor.restore p }
  | noSnapshot {index : Nat} (missing : w.snapshots[index]? = none) :
      Step w (.restore index) w

/-- Operations performed one after the other, each of them a step. -/
inductive Steps : Walk → List Operation → Walk → Prop
  | nil {w : Walk} : Steps w [] w
  | cons {w after last : Walk} {operation : Operation} {operations : List Operation}
      (performed : w.perform operation = .ok after) (step : Step w operation after)
      (rest : Steps after operations last) : Steps w (operation :: operations) last

/-- **With room every operation is a step.** -/
theorem exists_step {w : Walk} (room : w.cursor.place.HasRoom) (operation : Operation) :
    ∃ after, w.perform operation = .ok after ∧ Step w operation after := by
  cases operation with
  | advance =>
      obtain ⟨n, fits, same⟩ := w.cursor.exists_read_eq
      refine ⟨_, ?_, .read n rfl fits⟩
      simp only [Walk.perform, advance_eq_read room, same]
      rfl
  | backup =>
      cases history : w.cursor.previous with
      | none =>
          refine ⟨w, ?_, .noHistory history⟩
          simp only [Walk.perform, Cursor.backup, history]
      | some p =>
          refine ⟨_, ?_, .unread history⟩
          simp only [Walk.perform, Cursor.backup, history]
  | eat expected =>
      obtain ⟨read, n, fits, eaten⟩ := exists_eatIf_eq room (· == expected)
      refine ⟨_, ?_, .read n rfl fits⟩
      simp only [Walk.perform, Cursor.eat, eaten, bind, Except.bind]
      rfl
  | eatIf p =>
      obtain ⟨read, n, fits, eaten⟩ := exists_eatIf_eq room p
      refine ⟨_, ?_, .read n rfl fits⟩
      simp only [Walk.perform, eaten]
      rfl
  | eatWhile p =>
      refine ⟨_, ?_, .read _ rfl (List.takeWhile_prefix p).length_le⟩
      simp only [Walk.perform, Cursor.eatWhile, advanceBy_eq_readBy room, bind, Except.bind]
      rfl
  | eatText text =>
      cases starts : w.cursor.startsWith text with
      | true =>
          have fits := (List.isPrefixOf_iff_prefix.1 starts).length_le
          refine ⟨_, ?_, .read _ rfl fits⟩
          simp only [Walk.perform, Cursor.eatText, starts, advanceBy_eq_readBy room, if_true, bind,
            Except.bind]
          rfl
      | false =>
          refine ⟨_, ?_, .read 0 rfl (Nat.zero_le _)⟩
          simp only [Walk.perform, Cursor.eatText, starts]
          rfl
  | mark => exact ⟨_, rfl, .mark⟩
  | snapshot => exact ⟨_, rfl, .snapshot⟩
  | restore index =>
      cases taken : w.snapshots[index]? with
      | none =>
          refine ⟨w, ?_, .noSnapshot taken⟩
          simp only [Walk.perform, taken]
      | some p =>
          refine ⟨_, ?_, .restore taken⟩
          simp only [Walk.perform, taken]

theorem Steps.exists_of_append {w last : Walk} {first second : List Operation}
    (steps : Steps w (first ++ second) last) :
    ∃ mid, Steps w first mid ∧ Steps mid second last := by
  induction first generalizing w with
  | nil => exact ⟨w, .nil, steps⟩
  | cons operation first ih =>
      cases steps with
      | cons performed step rest =>
          obtain ⟨mid, before, behind⟩ := ih rest
          exact ⟨mid, .cons performed step before, behind⟩

/-! ## Walks in a text -/

/-- The cursor and all snapshots lie in the text. -/
structure Inside (source : String) (w : Walk) : Prop where
  cursor : w.cursor.IsIn source.toList
  snapshots : ∀ p ∈ w.snapshots, p.IsIn source.toList

variable {source : String} {w after last : Walk}

theorem inside_ofText (source : String) : (ofText source).Inside source where
  cursor := ⟨Place.isIn_start _, by intro p impossible; cases impossible⟩
  snapshots := by
    intro p listed
    cases listed

namespace Inside

theorem withCursor (inside : w.Inside source) {c : Cursor} (moved : c.IsIn source.toList) :
    Inside source { w with cursor := c } :=
  ⟨moved, inside.snapshots⟩

/-- **One operation** keeps the cursor in the text. -/
theorem step (inside : w.Inside source) {operation : Operation} (step : Step w operation after) :
    after.Inside source := by
  cases step with
  | read n reading fits => exact inside.withCursor (inside.cursor.readBy n)
  | unread history => exact inside.withCursor (.restore w.cursor (inside.cursor.previous _ history))
  | noHistory history => exact inside
  | mark => exact inside.withCursor inside.cursor.setMark
  | snapshot =>
      refine ⟨inside.cursor, ?_⟩
      intro p listed
      rcases List.mem_append.1 listed with old | new
      · exact inside.snapshots p old
      · rw [List.mem_singleton.1 new]
        exact inside.cursor.place
  | restore taken =>
      exact inside.withCursor (.restore w.cursor (inside.snapshots _ (List.mem_of_getElem? taken)))
  | noSnapshot missing => exact inside

/-- **All operations** are steps, for a text that the counters can count. -/
theorem exists_steps (inside : w.Inside source) (short : source.utf8ByteSize < counterBound - 1)
    (operations : List Operation) :
    ∃ last, w.run operations = .ok last ∧ Steps w operations last := by
  induction operations generalizing w with
  | nil => exact ⟨w, rfl, .nil⟩
  | cons operation operations ih =>
      obtain ⟨after, performed, step⟩ :=
        exists_step (inside.cursor.place.hasRoom short) operation
      obtain ⟨last, run, steps⟩ := ih (inside.step step)
      refine ⟨last, ?_, .cons performed step steps⟩
      simp only [Walk.run, performed]
      exact run

theorem steps (inside : w.Inside source) {operations : List Operation}
    (steps : Steps w operations last) : last.Inside source := by
  induction steps with
  | nil => exact inside
  | cons performed step rest ih => exact ih (inside.step step)

/-- **All operations** keep the cursor in the text, and none overflows a counter. -/
theorem run (inside : w.Inside source) (short : source.utf8ByteSize < counterBound - 1)
    (operations : List Operation) :
    ∃ last, w.run operations = .ok last ∧ last.Inside source := by
  obtain ⟨last, run, steps⟩ := inside.exists_steps short operations
  exact ⟨last, run, inside.steps steps⟩

end Inside

/-- The walk is one through the source, and its mark too lies in the text. -/
structure Rooted (source : String) (w : Walk) : Prop where
  inside : w.Inside source
  mark : w.cursor.mark.IsIn source.toList
  source : w.cursor.source = source

theorem rooted_ofText (source : String) : (ofText source).Rooted source :=
  ⟨inside_ofText source, Place.isIn_start _, rfl⟩

namespace Rooted

theorem step (rooted : w.Rooted source) {operation : Operation} (step : Step w operation after) :
    after.Rooted source := by
  have inside := rooted.inside.step step
  cases step with
  | read n reading fits =>
      refine ⟨inside, ?_, ?_⟩
      · rw [readBy_mark]
        exact rooted.mark
      · rw [readBy_source]
        exact rooted.source
  | mark => exact ⟨inside, rooted.inside.cursor.place, rooted.source⟩
  | unread history => exact ⟨inside, rooted.mark, rooted.source⟩
  | noHistory history => exact rooted
  | snapshot => exact ⟨inside, rooted.mark, rooted.source⟩
  | restore taken => exact ⟨inside, rooted.mark, rooted.source⟩
  | noSnapshot missing => exact rooted

theorem steps (rooted : w.Rooted source) {operations : List Operation}
    (steps : Steps w operations last) : last.Rooted source := by
  induction steps with
  | nil => exact rooted
  | cons performed step rest ih => exact ih (rooted.step step)

end Rooted

end Walk

end Cursor

end GoalLexer
