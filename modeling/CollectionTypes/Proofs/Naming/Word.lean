import CollectionTypes.Go.Name
import CollectionTypes.Proofs.Naming.Namespace
import CollectionTypes.Proofs.Text.Lowercase

/-!
Words: texts of ASCII letters, digits and underscores, of which a reader finds the end. All names
that are made from texts of users are words, whatever those texts hold. A word may begin with a
digit or a small letter; nothing here says that it is an identifier of a language.
-/

namespace CollectionTypes.Naming

def isWordLetter (letter : Char) : Bool := letter.isAlphanum || letter = '_'

structure IsWord (name : String) : Prop where
  letters : ∀ letter ∈ name.toList, isWordLetter letter = true
  nonempty : name ≠ ""

theorem word_on_line {name : String} (word : IsWord name) : '\n' ∉ name.toList := by
  intro member
  exact absurd (word.letters '\n' member) (by decide)

theorem ascii_of_alphanumeric {letter : Char} (alphanumeric : letter.isAlphanum = true) :
    letter.toNat < 128 := by
  unfold Char.isAlphanum Char.isAlpha Char.isUpper Char.isLower Char.isDigit at alphanumeric
  simp only [Bool.or_eq_true, Bool.and_eq_true, decide_eq_true_eq, ge_iff_le,
    UInt32.le_iff_toNat_le] at alphanumeric
  have upperEnd : 'Z'.val.toNat = 90 := rfl
  have lowerEnd : 'z'.val.toNat = 122 := rfl
  have digitEnd : '9'.val.toNat = 57 := rfl
  have code : letter.toNat = letter.val.toNat := rfl
  omega

/-- What holds of all of ASCII holds of each letter and digit. -/
theorem of_alphanumeric (holds : Char → Prop) (codes : ∀ code < 128, holds (Char.ofNat code))
    {letter : Char} (alphanumeric : letter.isAlphanum = true) : holds letter :=
  Text.of_ascii holds codes (ascii_of_alphanumeric alphanumeric)

theorem to_upper_of_alpha {letter : Char} (alpha : letter.isAlpha = true) :
    letter.toUpper.isAlpha = true :=
  of_alphanumeric (fun letter => letter.isAlpha = true → letter.toUpper.isAlpha = true)
    (by decide) (by simp [Char.isAlphanum, alpha]) alpha

theorem to_lower_of_alphanumeric {letter : Char} (alphanumeric : letter.isAlphanum = true) :
    letter.toLower.isAlphanum = true :=
  of_alphanumeric (fun letter => letter.isAlphanum = true → letter.toLower.isAlphanum = true)
    (by decide) alphanumeric alphanumeric

theorem pascal_letters_alphanumeric (capital : Bool) (letters : List Char) :
    ∀ letter ∈ pascalFrom capital letters, letter.isAlphanum = true := by
  induction letters generalizing capital with
  | nil => simp [pascalFrom]
  | cons first rest induction =>
      intro letter member
      rw [pascalFrom] at member
      split at member
      · rename_i alpha
        rcases List.mem_cons.mp member with rfl | later
        · split
          · simp [Char.isAlphanum, to_upper_of_alpha alpha]
          · simp [Char.isAlphanum, alpha]
        · exact induction _ letter later
      · split at member
        · rename_i digit
          rcases List.mem_cons.mp member with rfl | later
          · simp [Char.isAlphanum, digit]
          · exact induction _ letter later
        · exact induction _ letter member

theorem literal_is_word {letters : List Char}
    (word : (!letters.isEmpty && letters.all isWordLetter) = true) :
    IsWord (String.ofList letters) := by
  obtain ⟨some, all⟩ := Bool.and_eq_true_iff.mp word
  refine ⟨?_, ?_⟩
  · rw [String.toList_ofList]
    exact List.all_eq_true.mp all
  · intro empty
    have none : letters = [] := by simpa using congrArg String.toList empty
    simp [none] at some

theorem is_word_append_letters {left right : String} (leftWord : IsWord left)
    (rightLetters : ∀ letter ∈ right.toList, isWordLetter letter = true) :
    IsWord (left ++ right) := by
  refine ⟨?_, ?_⟩
  · intro letter member
    rw [String.toList_append] at member
    rcases List.mem_append.mp member with before | after
    · exact leftWord.letters letter before
    · exact rightLetters letter after
  · intro empty
    exact leftWord.nonempty (String.append_eq_empty_iff.mp empty).1

theorem is_word_append {left right : String} (leftWord : IsWord left) (rightWord : IsWord right) :
    IsWord (left ++ right) :=
  is_word_append_letters leftWord rightWord.letters

theorem leading_letter_is_word {name : List Char}
    (letters : ∀ letter ∈ name, letter.isAlphanum = true) {lead : String} (word : IsWord lead) :
    IsWord (leadingLetter lead lead name) := by
  have wordLetters : ∀ letter ∈ (String.ofList name).toList, isWordLetter letter = true := by
    intro letter member
    rw [String.toList_ofList] at member
    simp [isWordLetter, letters letter member]
  unfold leadingLetter
  split
  · exact word
  · split
    · exact is_word_append_letters word wordLetters
    · refine ⟨wordLetters, ?_⟩
      intro empty
      simpa using congrArg String.toList empty

theorem digits_alphanumeric (value : Nat) :
    ∀ letter ∈ Text.Decimal.digits value, letter.isAlphanum = true := by
  intro letter member
  have digit := Text.Decimal.digits_are_digits value letter member
  have numeral : letter.isDigit = true := by
    simp only [Text.Decimal.isDigit, Char.le_def, Bool.and_eq_true, decide_eq_true_eq] at digit
    simp only [Char.isDigit, Bool.and_eq_true, decide_eq_true_eq, ge_iff_le]
    exact digit
  simp [Char.isAlphanum, numeral]

theorem candidate_is_word {stem : String} (word : IsWord stem) (suffix : Nat) :
    IsWord (Namespace.candidate stem suffix) := by
  unfold Namespace.candidate
  split
  · exact word
  · apply is_word_append_letters word
    intro letter member
    rw [Text.Decimal.write, String.toList_ofList] at member
    simp [isWordLetter, digits_alphanumeric suffix letter member]

end CollectionTypes.Naming

namespace CollectionTypes.Go

open Naming

theorem exported_name_is_word (name : String) : IsWord (exportedName name) := by
  apply leading_letter_is_word
  · exact pascal_letters_alphanumeric _ _
  · exact literal_is_word (by decide)

theorem parameter_name_cases (name : String) (taken : List String) :
    parameterName name taken = "_" ++ String.ofList (camelLetters name) ∨
      camelLetters name ≠ [] ∧ parameterName name taken = String.ofList (camelLetters name) := by
  cases letters : camelLetters name with
  | nil =>
      left
      simp only [parameterName, letters, Bool.true_or, if_true]
  | cons first rest =>
      simp only [parameterName, letters]
      split
      · exact Or.inl rfl
      · exact Or.inr ⟨List.cons_ne_nil _ _, rfl⟩

theorem camel_letters_alphanumeric (name : String) :
    ∀ letter ∈ camelLetters name, letter.isAlphanum = true := by
  have pascal := pascal_letters_alphanumeric true (Text.trimLetters name.toList)
  unfold camelLetters pascalLetters
  cases letters : pascalFrom true (Text.trimLetters name.toList) with
  | nil => simp
  | cons first rest =>
      rw [letters] at pascal
      intro letter member
      rcases List.mem_cons.mp member with rfl | later
      · exact to_lower_of_alphanumeric (pascal first (List.mem_cons_self ..))
      · exact pascal letter (List.mem_cons_of_mem _ later)

theorem parameter_name_is_word (name : String) (taken : List String) :
    IsWord (parameterName name taken) := by
  have letters : ∀ letter ∈ (String.ofList (camelLetters name)).toList,
      isWordLetter letter = true := by
    intro letter member
    rw [String.toList_ofList] at member
    simp [isWordLetter, camel_letters_alphanumeric name letter member]
  rcases parameter_name_cases name taken with marked | ⟨some, plain⟩
  · rw [marked]
    exact is_word_append_letters (literal_is_word (by decide)) letters
  · rw [plain]
    refine ⟨letters, ?_⟩
    intro empty
    exact some (by simpa using congrArg String.toList empty)

theorem constant_names_eq (typeName : String) (literals : List String) :
    constantNames typeName literals =
      (uniqueNames exportedName literals).map fun name => typeName ++ name :=
  unique_names_with_lead typeName exportedName literals

theorem unique_exported_names_are_words (literals : List String) :
    ∀ name ∈ uniqueNames exportedName literals, IsWord name := by
  intro name member
  obtain ⟨literal, _, suffix, rfl⟩ := unique_names_are_candidates _ _ name member
  exact candidate_is_word (exported_name_is_word literal) suffix

theorem constant_names_are_words {typeName : String} (word : IsWord typeName)
    (literals : List String) : ∀ name ∈ constantNames typeName literals, IsWord name := by
  intro name member
  rw [constant_names_eq] at member
  obtain ⟨own, ownMember, rfl⟩ := List.mem_map.mp member
  exact is_word_append word (unique_exported_names_are_words literals own ownMember)

theorem constant_names_length (typeName : String) (literals : List String) :
    (constantNames typeName literals).length = literals.length :=
  unique_names_length _ _

theorem constant_names_nodup (typeName : String) (literals : List String) :
    (constantNames typeName literals).Nodup :=
  unique_names_nodup _ _

/-- A constant is longer than its type's name. -/
theorem type_name_not_constant (typeName : String) (literals : List String) :
    typeName ∉ constantNames typeName literals := by
  rw [constant_names_eq]
  intro member
  obtain ⟨own, ownMember, same⟩ := List.mem_map.mp member
  have empty : own = "" := by simpa using same
  exact (unique_exported_names_are_words literals own ownMember).nonempty empty

end CollectionTypes.Go
