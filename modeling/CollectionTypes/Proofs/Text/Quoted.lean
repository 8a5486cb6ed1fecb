import CollectionTypes.Text.Quoted

/-!
A string literal stays on its line and is read back as the text that it holds, whatever that text
is and whatever follows the literal. Letters that need no escape stand for themselves, also those
that a compiler may refuse to find in a source.
-/

namespace CollectionTypes.Text.Quoted

theorem encoded_letter_on_line (letter : Char) :
    '\n' ∉ encodeLetter letter ∧ '\r' ∉ encodeLetter letter := by
  unfold encodeLetter
  split
  case h_6 feed return_ _ =>
    simp only [List.mem_singleton]
    exact ⟨fun same => feed same.symm, fun same => return_ same.symm⟩
  all_goals decide

theorem encoded_on_line (letters : List Char) :
    '\n' ∉ encode letters ∧ '\r' ∉ encode letters := by
  constructor
  · intro member
    obtain ⟨letter, _, inside⟩ := List.mem_flatMap.mp member
    exact (encoded_letter_on_line letter).1 inside
  · intro member
    obtain ⟨letter, _, inside⟩ := List.mem_flatMap.mp member
    exact (encoded_letter_on_line letter).2 inside

theorem literal_on_line (value : String) : '\n' ∉ (literal value).toList := by
  have body := (encoded_on_line value.toList).1
  simp [literal, literalLetters, body]

/-- A letter that needs no escape stands for itself. -/
theorem read_body_plain {letter : Char} (quote : letter ≠ '"') (backslash : letter ≠ '\\')
    (feed : letter ≠ '\n') (return_ : letter ≠ '\r') (following : List Char) :
    readBody (letter :: following) =
      (readBody following).map fun read => (letter :: read.1, read.2) := by
  cases read : readBody following <;> simp [readBody, backslash, feed, return_, read]

theorem read_body_encoded_letter (letter : Char) (following : List Char) :
    readBody (encodeLetter letter ++ following) =
      (readBody following).map fun read => (letter :: read.1, read.2) := by
  unfold encodeLetter
  split
  case h_6 quote backslash feed return_ _ =>
    exact read_body_plain quote backslash feed return_ following
  all_goals cases read : readBody following <;> simp [readBody, escapedLetter, read]

theorem read_body_encode (letters rest : List Char) :
    readBody (encode letters ++ '"' :: rest) = some (letters, rest) := by
  induction letters with
  | nil => rfl
  | cons letter letters induction =>
      have split : encode (letter :: letters) = encodeLetter letter ++ encode letters := rfl
      rw [split, List.append_assoc, read_body_encoded_letter, induction]
      rfl

/-- The reader takes a literal whole and nothing of what follows it. -/
theorem read_literal_append (value : String) (rest : List Char) :
    readLiteral ((literal value).toList ++ rest) = some (value.toList, rest) := by
  have letters : (literal value).toList ++ rest = '"' :: (encode value.toList ++ '"' :: rest) := by
    simp [literal, literalLetters]
  rw [letters]
  exact read_body_encode value.toList rest

end CollectionTypes.Text.Quoted
