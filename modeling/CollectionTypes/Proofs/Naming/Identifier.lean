import CollectionTypes.Proofs.Naming.Word
import CollectionTypes.Proofs.Text.Blank
import CollectionTypes.Property.Basic
import CollectionTypes.TypeScript.Name

/-!
Identifiers: words that do not begin with a digit. Names made of the texts of users are identifiers
in both languages, with or without a suffix. Keywords are words like any other: only a name that
has a capital in it is known to be none.
-/

namespace CollectionTypes.Naming

structure IsIdentifier (name : String) : Prop extends IsWord name where
  start : ∀ letter ∈ name.toList.head?, letter.isDigit = false

theorem literal_is_identifier {letters : List Char}
    (word : (!letters.isEmpty && letters.all isWordLetter) = true)
    (start : letters.head?.all (fun letter => !letter.isDigit) = true) :
    IsIdentifier (String.ofList letters) := by
  refine ⟨literal_is_word word, ?_⟩
  intro letter first
  rw [String.toList_ofList] at first
  simpa using (Option.all_eq_true _ _).mp start letter first

theorem is_identifier_append {left right : String} (identifier : IsIdentifier left)
    (letters : ∀ letter ∈ right.toList, isWordLetter letter = true) :
    IsIdentifier (left ++ right) := by
  refine ⟨is_word_append_letters identifier.toIsWord letters, ?_⟩
  have spelled : left.toList ≠ [] := fun empty =>
    identifier.nonempty (String.toList_eq_nil_iff.mp empty)
  rw [String.toList_append, List.head?_append_of_ne_nil _ spelled]
  exact identifier.start

theorem leading_letter_is_identifier {name : List Char}
    (letters : ∀ letter ∈ name, letter.isAlphanum = true) {lead : String}
    (identifier : IsIdentifier lead) : IsIdentifier (leadingLetter lead lead name) := by
  cases name with
  | nil => exact identifier
  | cons first rest =>
      have word := leading_letter_is_word letters identifier.toIsWord
      simp only [leadingLetter] at word ⊢
      split
      · apply is_identifier_append identifier
        intro letter member
        rw [String.toList_ofList] at member
        simp [isWordLetter, letters letter member]
      · rename_i noDigit
        rw [if_neg noDigit] at word
        refine ⟨word, ?_⟩
        intro letter found
        rw [String.toList_ofList] at found
        rw [← Option.some.inj found]
        simpa using noDigit

theorem candidate_is_identifier {stem : String} (identifier : IsIdentifier stem) (suffix : Nat) :
    IsIdentifier (Namespace.candidate stem suffix) := by
  refine ⟨candidate_is_word identifier.toIsWord suffix, ?_⟩
  have spelled : stem.toList ≠ [] := fun empty =>
    identifier.nonempty (String.toList_eq_nil_iff.mp empty)
  unfold Namespace.candidate
  split
  · exact identifier.start
  · rw [String.toList_append, List.head?_append_of_ne_nil _ spelled]
    exact identifier.start

/-! A capital that is in a text stays in the name that is made of it. -/

theorem capital_in_pascal_from {letters : List Char} (capital : Bool) (member : 'O' ∈ letters) :
    'O' ∈ pascalFrom capital letters := by
  induction letters generalizing capital with
  | nil => contradiction
  | cons first rest induction =>
      rw [pascalFrom]
      rcases List.mem_cons.mp member with rfl | later
      · have alpha : 'O'.isAlpha = true := by decide
        have upper : 'O'.toUpper = 'O' := by decide
        rw [if_pos alpha, upper, ite_self]
        exact List.mem_cons_self ..
      · split
        · exact List.mem_cons_of_mem _ (induction _ later)
        · split
          · exact List.mem_cons_of_mem _ (induction _ later)
          · exact induction _ later

theorem pascal_from_append (capital : Bool) (letters rest : List Char) :
    ∃ front next, pascalFrom capital (letters ++ rest) = front ++ pascalFrom next rest := by
  induction letters generalizing capital with
  | nil => exact ⟨[], capital, rfl⟩
  | cons first letters induction =>
      rw [List.cons_append, pascalFrom]
      split
      · obtain ⟨front, next, tail⟩ := induction false
        exact ⟨_ :: front, next, by rw [tail]; rfl⟩
      · split
        · obtain ⟨front, next, tail⟩ := induction true
          exact ⟨first :: front, next, by rw [tail]; rfl⟩
        · exact induction _

theorem capital_in_enum_type_name (property : Property) :
    'O' ∈ property.enumTypeName.toList := by
  let front := (property.owner ++ "_" ++ property.name).toList
  have letters : (property.owner ++ "_" ++ property.name ++ "_options").toList =
      front ++ ('_' :: "option".toList ++ ['s']) := String.toList_append
  obtain ⟨before, next, split⟩ :=
    pascal_from_append true (Text.dropBlanks front) ('_' :: "option".toList ++ ['s'])
  have ending : 'O' ∈ pascalFrom next ('_' :: "option".toList ++ ['s']) := by
    cases next <;> decide
  rw [Property.enumTypeName, pascal, String.toList_ofList, pascalLetters, letters,
    Text.trim_letters_append front (by decide) (by decide), split]
  exact List.mem_append_right _ ending

end CollectionTypes.Naming

namespace CollectionTypes.Go

open Naming

theorem exported_name_is_identifier (name : String) : IsIdentifier (exportedName name) := by
  apply leading_letter_is_identifier
  · exact pascal_letters_alphanumeric _ _
  · exact literal_is_identifier (by decide) (by decide)

theorem capital_in_exported_name {name : String} (member : 'O' ∈ name.toList) :
    'O' ∈ (exportedName name).toList := by
  have kept : 'O' ∈ pascalLetters name :=
    capital_in_pascal_from _ (Text.mem_trim_letters member (by decide))
  unfold exportedName leadingLetter
  split
  · rename_i empty
    rw [empty] at kept
    contradiction
  · split
    · rw [String.toList_append]
      exact List.mem_append_right _ (by rwa [String.toList_ofList])
    · rwa [String.toList_ofList]

/-- An identifier in Go that is free to be declared: neither a keyword nor predeclared. -/
def isIdentifier (name : String) : Bool :=
  match name.toList with
  | [] => false
  | first :: rest => (first.isAlpha || first = '_') && rest.all isWordLetter && !isReserved name

theorem identifier_with_capital {name : String} (identifier : IsIdentifier name)
    (capital : 'O' ∈ name.toList) : isIdentifier name = true := by
  have free : isReserved name = false := by
    have small : ∀ word ∈ reserved, 'O' ∉ word.toList := by decide +kernel
    rw [isReserved, ← Bool.not_eq_true, List.contains_iff_mem]
    exact fun member => small name member capital
  cases letters : name.toList with
  | nil =>
      rw [letters] at capital
      contradiction
  | cons first rest =>
      have noDigit : first.isDigit = false := identifier.start first (by simp [letters])
      have firstLetter : isWordLetter first = true :=
        identifier.letters first (by simp [letters])
      have others : rest.all isWordLetter = true := by
        rw [List.all_eq_true]
        exact fun letter member => identifier.letters letter (by simp [letters, member])
      have opens : (first.isAlpha || decide (first = '_')) = true := by
        simpa [isWordLetter, Char.isAlphanum, noDigit] using firstLetter
      simp only [isIdentifier, letters, opens, others, free]
      rfl

end CollectionTypes.Go

namespace CollectionTypes.TypeScript

open Naming

theorem name_parts {name : String} (word : IsWord name) :
    ∀ letter ∈ name.toList, isNamePart letter = true := by
  intro letter member
  have wordLetter := word.letters letter member
  simp only [isWordLetter, Char.isAlphanum, Bool.or_eq_true, decide_eq_true_eq] at wordLetter
  simp only [isNamePart, isNameStart, Bool.or_eq_true, decide_eq_true_eq]
  tauto

theorem identifier_of_is_identifier {name : String} (identifier : IsIdentifier name) :
    isIdentifier name = true := by
  cases letters : name.toList with
  | nil => exact absurd (String.toList_eq_nil_iff.mp letters) identifier.nonempty
  | cons first rest =>
      have part := name_parts identifier.toIsWord
      have noDigit : first.isDigit = false := identifier.start first (by simp [letters])
      have opens : isNameStart first = true := by
        simpa [isNamePart, noDigit] using part first (by simp [letters])
      simp only [isIdentifier, letters, isIdentifierLetters, opens, Bool.true_and,
        List.all_eq_true]
      exact fun letter member => part letter (by simp [letters, member])

theorem enum_member_is_identifier (literal : String) : IsIdentifier (enumMember literal) := by
  apply leading_letter_is_identifier
  · exact pascal_letters_alphanumeric _ _
  · exact literal_is_identifier (by decide) (by decide)

theorem unique_enum_members_are_identifiers (literals : List String) :
    ∀ name ∈ uniqueNames enumMember literals, IsIdentifier name := by
  intro name member
  obtain ⟨literal, _, suffix, rfl⟩ := unique_names_are_candidates _ _ name member
  exact candidate_is_identifier (enum_member_is_identifier literal) suffix

end CollectionTypes.TypeScript
