/-!
# Byte offsets in a list of characters

Text is scanned as a list of characters; offsets count the bytes of its UTF-8
form. `dropBytes` and `takeBytes` cut at an offset and have no result where the
offset lies inside a character or past the end, and `slice` is the text between
two offsets.
-/

set_option autoImplicit false

namespace GoalLexer.Utf8

/-- The number of bytes of the UTF-8 form. -/
def length : List Char → Nat
  | [] => 0
  | c :: cs => c.utf8Size + length cs

/-- What follows the first `n` bytes. -/
def dropBytes : List Char → Nat → Option (List Char)
  | cs, 0 => some cs
  | [], _ + 1 => none
  | c :: cs, n + 1 => if c.utf8Size ≤ n + 1 then dropBytes cs (n + 1 - c.utf8Size) else none

/-- The first `n` bytes. -/
def takeBytes : List Char → Nat → Option (List Char)
  | _, 0 => some []
  | [], _ + 1 => none
  | c :: cs, n + 1 =>
      if c.utf8Size ≤ n + 1 then (takeBytes cs (n + 1 - c.utf8Size)).map (c :: ·) else none

/-- The text from byte `start` up to byte `stop`. -/
def slice (cs : List Char) (start stop : Nat) : Option (List Char) :=
  if start ≤ stop then (dropBytes cs start).bind (takeBytes · (stop - start)) else none

/-- Whether an offset within the text lies between two characters. -/
def isBoundary (cs : List Char) (n : Nat) : Bool :=
  (dropBytes cs n).isSome

@[simp] theorem length_nil : length [] = 0 := rfl

@[simp] theorem length_cons (c : Char) (cs : List Char) :
    length (c :: cs) = c.utf8Size + length cs := rfl

@[simp] theorem length_append (cs ds : List Char) :
    length (cs ++ ds) = length cs + length ds := by
  induction cs with
  | nil => simp
  | cons c cs ih => simp [ih, Nat.add_assoc]

/-- Cutting after a prefix leaves what follows it. -/
theorem dropBytes_append (pre cs : List Char) : dropBytes (pre ++ cs) (length pre) = some cs := by
  induction pre with
  | nil => cases cs <;> rfl
  | cons c pre ih =>
      have pos := c.utf8Size_pos
      obtain ⟨n, hn⟩ : ∃ n, length (c :: pre) = n + 1 :=
        ⟨length (c :: pre) - 1, by rw [length_cons]; omega⟩
      rw [hn, List.cons_append, dropBytes]
      rw [length_cons] at hn
      rw [if_pos (by omega), show n + 1 - c.utf8Size = length pre by omega, ih]

/-- Cutting after a prefix takes the prefix. -/
theorem takeBytes_append (pre cs : List Char) : takeBytes (pre ++ cs) (length pre) = some pre := by
  induction pre with
  | nil => cases cs <;> rfl
  | cons c pre ih =>
      have pos := c.utf8Size_pos
      obtain ⟨n, hn⟩ : ∃ n, length (c :: pre) = n + 1 :=
        ⟨length (c :: pre) - 1, by rw [length_cons]; omega⟩
      rw [hn, List.cons_append, takeBytes]
      rw [length_cons] at hn
      rw [if_pos (by omega), show n + 1 - c.utf8Size = length pre by omega, ih]
      rfl

/-- The slice between the ends of two prefixes is what the longer one adds. -/
theorem slice_append (pre mid cs : List Char) :
    slice (pre ++ (mid ++ cs)) (length pre) (length (pre ++ mid)) = some mid := by
  rw [slice, if_pos (by rw [length_append]; omega), dropBytes_append, length_append,
    Nat.add_sub_cancel_left]
  exact takeBytes_append mid cs

end GoalLexer.Utf8
