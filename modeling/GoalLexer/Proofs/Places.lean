import GoalLexer.Cursor

/-!
# Places without overflow

The counters of a place are bounded, so reading a character may fail. This module
gives the reading that never fails, `Place.step`, its iteration `Place.skip`, and
the condition under which the two agree, `Place.HasRoom`: line, column and the
number of unread characters together stay below the bound. A character read adds
at most one to line plus column, so a place with room keeps it
(`Place.HasRoom.skip`), and a text of fewer than `counterBound - 1` bytes starts with
room (`Place.hasRoom_start`).

A place `IsIn` a text when it is reached from the start by reading. Such a place
splits the text at its offset, which is what makes lexemes slices of the source.
-/

set_option autoImplicit false

namespace GoalLexer

namespace Utf8

theorem length_toList (s : String) : length s.toList = s.utf8ByteSize := by
  obtain ⟨cs, rfl⟩ : ∃ cs, s = String.ofList cs := ⟨s.toList, String.ofList_toList.symm⟩
  rw [String.toList_ofList]
  induction cs with
  | nil => rfl
  | cons c cs ih =>
      rw [length_cons, ih, String.ofList_cons, String.utf8ByteSize_append,
        String.utf8ByteSize_singleton]

theorem length_ofList (cs : List Char) : (String.ofList cs).utf8ByteSize = length cs := by
  rw [← length_toList, String.toList_ofList]

/-- No character is shorter than a byte. -/
theorem length_le (cs : List Char) : cs.length ≤ length cs := by
  induction cs with
  | nil => simp
  | cons c cs ih =>
      have pos := c.utf8Size_pos
      rw [List.length_cons, length_cons]
      omega

/-- A beginning of a text is known by its number of bytes. -/
theorem eq_of_length_eq {pre post pre' post' : List Char} (text : pre ++ post = pre' ++ post')
    (sizes : length pre = length pre') : pre = pre' := by
  have taken := takeBytes_append pre post
  rw [text, sizes, takeBytes_append] at taken
  exact (Option.some.inj taken).symm

end Utf8

namespace Place

/-- The place after the next character, with counters that have no bound. -/
def step (p : Place) : Place :=
  match p.rest with
  | [] => p
  | c :: rest =>
      if endsLine c rest then ⟨rest, p.offset + c.utf8Size, p.line + 1, 0⟩
      else ⟨rest, p.offset + c.utf8Size, p.line, p.column + 1⟩

/-- The place `n` characters on, or the end of the text if it comes first. -/
def skip : Nat → Place → Place
  | 0, p => p
  | n + 1, p => skip n p.step

/-- Reading all that is unread overflows neither counter. -/
def HasRoom (p : Place) : Prop :=
  p.line + p.column + p.rest.length < counterBound

/-- The place lies in a text: reading from the start gets there. -/
def IsIn (text : List Char) (p : Place) : Prop :=
  ∃ n, p = (start text).skip n

/-! ## One character -/

theorem step_of_nil {p : Place} (finished : p.rest = []) : p.step = p := by
  simp [step, finished]

@[simp] theorem step_rest (p : Place) : p.step.rest = p.rest.drop 1 := by
  unfold step
  split
  · rename_i finished
    simp [finished]
  · rename_i c rest unread
    split <;> simp [unread]

@[simp] theorem step_offset (p : Place) :
    p.step.offset = p.offset + Utf8.length (p.rest.take 1) := by
  unfold step
  split
  · rename_i finished
    simp [finished]
  · rename_i c rest unread
    split <;> simp [unread]

theorem HasRoom.step {p : Place} (room : p.HasRoom) : p.step.HasRoom := by
  unfold HasRoom at room ⊢
  unfold Place.step
  split
  · exact room
  · rename_i c rest unread
    rw [unread, List.length_cons] at room
    split <;> dsimp only <;> omega

/-- With room, reading never fails. -/
theorem after_eq_step {p : Place} (room : p.HasRoom) {c : Char} {rest : List Char}
    (unread : p.rest = c :: rest) : p.after c rest = .ok p.step := by
  unfold HasRoom at room
  rw [unread, List.length_cons] at room
  simp only [after, step, unread, nextCount]
  split
  · rw [if_pos (by omega)]
    rfl
  · rw [if_pos (by omega)]
    rfl

/-- A reading that does not fail is the one without bounds. -/
theorem eq_step_of_after {p q : Place} {c : Char} {rest : List Char} (unread : p.rest = c :: rest)
    (moved : p.after c rest = .ok q) : q = p.step := by
  simp only [after, nextCount] at moved
  simp only [step, unread]
  split at moved
  · rename_i ends
    rw [if_pos ends]
    split at moved
    · cases moved
      rfl
    · cases moved
  · rename_i goesOn
    rw [if_neg goesOn]
    split at moved
    · cases moved
      rfl
    · cases moved

/-! ## Many characters -/

@[simp] theorem skip_zero (p : Place) : p.skip 0 = p := rfl

theorem skip_succ (p : Place) (n : Nat) : p.skip (n + 1) = p.step.skip n := rfl

theorem skip_add (p : Place) (m n : Nat) : p.skip (m + n) = (p.skip m).skip n := by
  induction m generalizing p with
  | zero => rw [Nat.zero_add, skip_zero]
  | succ m ih => rw [Nat.succ_add, skip_succ, skip_succ, ih]

@[simp] theorem skip_rest (p : Place) (n : Nat) : (p.skip n).rest = p.rest.drop n := by
  induction n generalizing p with
  | zero => rfl
  | succ n ih => rw [skip_succ, ih, step_rest, List.drop_drop, Nat.add_comm]

@[simp] theorem skip_offset (p : Place) (n : Nat) :
    (p.skip n).offset = p.offset + Utf8.length (p.rest.take n) := by
  induction n generalizing p with
  | zero => rfl
  | succ n ih =>
      rw [skip_succ, ih, step_offset, step_rest, Nat.add_assoc, ← Utf8.length_append,
        ← List.take_add, Nat.add_comm 1 n]

theorem HasRoom.skip {p : Place} (room : p.HasRoom) (n : Nat) : (p.skip n).HasRoom := by
  induction n generalizing p with
  | zero => exact room
  | succ n ih => exact ih room.step

/-! ## Places of a text -/

theorem isIn_start (text : List Char) : (start text).IsIn text := ⟨0, rfl⟩

theorem IsIn.skip {text : List Char} {p : Place} (inside : p.IsIn text) (n : Nat) :
    (p.skip n).IsIn text := by
  obtain ⟨m, rfl⟩ := inside
  exact ⟨m + n, (skip_add _ m n).symm⟩

/-- A place of a text splits it at its offset. -/
theorem IsIn.split {text : List Char} {p : Place} (inside : p.IsIn text) :
    ∃ read, text = read ++ p.rest ∧ p.offset = Utf8.length read := by
  obtain ⟨n, rfl⟩ := inside
  refine ⟨text.take n, ?_, ?_⟩
  · rw [skip_rest]
    exact (List.take_append_drop n text).symm
  · rw [skip_offset]
    simp [start]

/-- A text shorter than the counters starts with room. -/
theorem hasRoom_start {source : String} (short : source.utf8ByteSize < counterBound - 1) :
    (start source.toList).HasRoom := by
  have bound := Utf8.length_le source.toList
  rw [Utf8.length_toList] at bound
  unfold HasRoom start
  dsimp only
  omega

/-- Places of such a text have room. -/
theorem IsIn.hasRoom {source : String} {p : Place} (inside : p.IsIn source.toList)
    (short : source.utf8ByteSize < counterBound - 1) : p.HasRoom := by
  obtain ⟨n, rfl⟩ := inside
  exact (hasRoom_start short).skip n

end Place

namespace Cursor

/-- The cursor after the next character, with counters that have no bound. -/
def read (c : Cursor) : Cursor :=
  match c.place.rest with
  | [] => c
  | _ :: _ => { c with place := c.place.step, previous := some c.place }

/-- The cursor `n` characters on. -/
def readBy : Nat → Cursor → Cursor
  | 0, c => c
  | n + 1, c => readBy n c.read

@[simp] theorem read_place (c : Cursor) : c.read.place = c.place.step := by
  unfold read
  split
  · rename_i finished
    rw [Place.step_of_nil finished]
  · rfl

@[simp] theorem read_mark (c : Cursor) : c.read.mark = c.mark := by
  unfold read
  split <;> rfl

@[simp] theorem read_source (c : Cursor) : c.read.source = c.source := by
  unfold read
  split <;> rfl

@[simp] theorem readBy_place (c : Cursor) (n : Nat) : (c.readBy n).place = c.place.skip n := by
  induction n generalizing c with
  | zero => rfl
  | succ n ih => rw [readBy, ih, read_place, Place.skip_succ]

@[simp] theorem readBy_mark (c : Cursor) (n : Nat) : (c.readBy n).mark = c.mark := by
  induction n generalizing c with
  | zero => rfl
  | succ n ih => rw [readBy, ih, read_mark]

@[simp] theorem readBy_source (c : Cursor) (n : Nat) : (c.readBy n).source = c.source := by
  induction n generalizing c with
  | zero => rfl
  | succ n ih => rw [readBy, ih, read_source]

theorem advance_eq_read {c : Cursor} (room : c.place.HasRoom) :
    c.advance = .ok (c.peek, c.read) := by
  unfold advance peek read
  split
  · rename_i finished
    rw [finished]
    rfl
  · rename_i ch rest unread
    rw [Place.after_eq_step room unread, unread]
    rfl

/-- With room, reading many characters never fails. -/
theorem advanceBy_eq_readBy {c : Cursor} (room : c.place.HasRoom) (n : Nat) :
    c.advanceBy n = .ok (c.readBy n) := by
  induction n generalizing c with
  | zero => rfl
  | succ n ih =>
      rw [advanceBy, advance_eq_read room]
      have next : c.read.place.HasRoom := by
        rw [read_place]
        exact room.step
      exact ih next

theorem eq_read_of_advance {c d : Cursor} {ch : Option Char} (moved : c.advance = .ok (ch, d)) :
    d = c.read := by
  unfold advance at moved
  unfold read
  cases unread : c.place.rest with
  | nil =>
      simp only [unread] at moved
      cases moved
      rfl
  | cons first rest =>
      simp only [unread] at moved
      cases place : c.place.after first rest with
      | error fault =>
          rw [place] at moved
          cases moved
      | ok q =>
          rw [place] at moved
          cases moved
          rw [Place.eq_step_of_after unread place]

theorem eq_readBy_of_advanceBy {c d : Cursor} {n : Nat} (moved : c.advanceBy n = .ok d) :
    d = c.readBy n := by
  induction n generalizing c with
  | zero =>
      cases moved
      rfl
  | succ n ih =>
      rw [advanceBy] at moved
      cases first : c.advance with
      | error fault =>
          rw [first] at moved
          cases moved
      | ok result =>
          rw [first] at moved
          rw [readBy, ← eq_read_of_advance first]
          exact ih moved

@[simp] theorem setMark_place (c : Cursor) : c.setMark.place = c.place := rfl

@[simp] theorem setMark_mark (c : Cursor) : c.setMark.mark = c.place := rfl

@[simp] theorem setMark_source (c : Cursor) : c.setMark.source = c.source := rfl

/-- The lexeme of a cursor `n` characters behind its mark is these characters. -/
theorem lexeme_of_skip {c : Cursor} {n : Nat} (ahead : c.place = c.mark.skip n) :
    c.lexeme = .ok (String.ofList (c.mark.rest.take n)) := by
  have taken : Utf8.takeBytes c.mark.rest (Utf8.length (c.mark.rest.take n)) =
      some (c.mark.rest.take n) := by
    have cut := Utf8.takeBytes_append (c.mark.rest.take n) (c.mark.rest.drop n)
    rwa [List.take_append_drop] at cut
  unfold lexeme
  rw [ahead, Place.skip_offset, if_pos (Nat.le_add_right _ _), Nat.add_sub_cancel_left, taken]

/-- The lexeme after marking and reading `n` characters is these characters. -/
theorem lexeme_readBy_setMark (c : Cursor) (n : Nat) :
    (c.setMark.readBy n).lexeme = .ok (String.ofList (c.place.rest.take n)) := by
  have ahead : (c.setMark.readBy n).place = (c.setMark.readBy n).mark.skip n := by simp
  rw [lexeme_of_skip ahead, readBy_mark, setMark_mark]

end Cursor

end GoalLexer
