import GoalLexer.Proofs.Choice

/-!
# Names

A name is a character that starts names and all that continue it, and it is looked up as
a whole (`Piece.scan_of_isIdStart`). The lookup finds the words that the tables list, in
whatever order, and each of them is a name (`ReservedWords.exists_word_of_mem_words`).
-/

set_option autoImplicit false

namespace GoalLexer

/-- An identifier name, which may be a reserved word. -/
structure Word where
  first : Char
  others : List Char
  starts : isIdStart first = true
  continues : ∀ c ∈ others, isIdContinue c = true

def Word.chars (w : Word) : List Char := w.first :: w.others

namespace ReservedWords

/-- The tables hold the words that the lookup finds. -/
theorem mem_words_iff (r : ReservedWords) (word : String) :
    word ∈ r.words ↔ r.contains word = true := by
  unfold words contains
  cases r.strict <;> simp [or_assoc]

theorem mem_ordered_iff (r : ReservedWords) (word : String) :
    word ∈ r.ordered ↔ r.contains word = true := by
  rw [ordered, List.mem_mergeSort, List.mem_eraseDups, mem_words_iff]

/-- Every reserved word is an identifier name. -/
theorem exists_word_of_mem_words {r : ReservedWords} {word : String} (listed : word ∈ r.words) :
    ∃ name : Word, word.toList = name.chars := by
  have named : ∀ strict, ∀ word ∈ words ⟨strict⟩, word.toList.head?.any isIdStart = true ∧
      word.toList.tail.all isIdContinue = true := by decide
  obtain ⟨starts, continues⟩ := named r.strict word listed
  cases text : word.toList with
  | nil =>
      rw [text] at starts
      cases starts
  | cons first others =>
      rw [text] at starts continues
      exact ⟨⟨first, others, starts, List.all_eq_true.1 continues⟩, rfl⟩

end ReservedWords

/-- What is scanned from the start of a name. -/
theorem Piece.scan_of_isIdStart (options : Options) (goal : Goal) {c : Char}
    (starts : isIdStart c = true) (cs : List Char) :
    scan options goal (c :: cs) =
      ⟨c :: cs.takeWhile isIdContinue,
        .ok (if (ReservedWords.mk options.strictMode).contains
          (String.ofList (c :: cs.takeWhile isIdContinue)) then .reservedWord
          else .identifierName)⟩ := by
  rw [(Production.Applies.word starts).scan_eq]
  rfl

end GoalLexer
