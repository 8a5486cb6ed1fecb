import CollectionTypes.Proofs.Text.Blank
import Mathlib.Data.List.DropRight

/-!
The ends of texts. What is dropped at an end is the longest run there that passes the test, and what
is left does not end in such a run. A trimmed text has no blanks at its ends, and a text without
blanks there is its own trimmed one.
-/

namespace CollectionTypes.Text

section Ends

variable {Letter : Type} {test : Letter → Bool} {letters after : List Letter}

theorem drop_end_prefix (test : Letter → Bool) (letters : List Letter) :
    dropEnd test letters <+: letters :=
  List.rdropWhile_prefix test letters

theorem last_of_drop_end (test : Letter → Bool) (letters : List Letter) :
    ∀ last ∈ (dropEnd test letters).getLast?, test last = false := by
  intro last found
  obtain ⟨some, rfl⟩ := List.mem_getLast?_eq_getLast found
  exact Bool.not_eq_true _ ▸ List.rdropWhile_last_not test letters some

theorem drop_end_of_last (closes : ∀ last ∈ letters.getLast?, test last = false) :
    dropEnd test letters = letters := by
  refine List.rdropWhile_eq_self_iff.mpr fun some passes => ?_
  rw [closes _ (List.getLast?_eq_getLast_of_ne_nil some)] at passes
  contradiction

theorem drop_end_append (passes : ∀ letter ∈ after, test letter = true) :
    dropEnd test (letters ++ after) = dropEnd test letters := by
  have reversed : ∀ letter ∈ after.reverse, test letter = true := fun letter member =>
    passes letter (List.mem_reverse.mp member)
  rw [dropEnd, List.reverse_append, List.dropWhile_append_of_pos reversed]
  rfl

/-- What is dropped stands behind what is left. -/
theorem drop_end_split (test : Letter → Bool) (letters : List Letter) :
    ∃ after, letters = dropEnd test letters ++ after ∧ ∀ letter ∈ after, test letter = true :=
  ⟨letters.rtakeWhile test, List.rdropWhile_append_rtakeWhile.symm,
    fun _ => List.mem_rtakeWhile_imp⟩

end Ends

structure IsTrimmed (letters : List Char) : Prop where
  opens : ∀ first ∈ letters.head?, isBlank first = false
  closes : ∀ last ∈ letters.getLast?, isBlank last = false

theorem first_of_drop_blanks (letters : List Char) :
    ∀ first ∈ (dropBlanks letters).head?, isBlank first = false := by
  intro first found
  have failed := List.head?_dropWhile_not isBlank letters
  rw [dropBlanks] at found
  rwa [found] at failed

theorem is_trimmed_trim (letters : List Char) : IsTrimmed (trimLetters letters) where
  opens := by
    intro first found
    obtain ⟨after, whole⟩ := drop_end_prefix isBlank (dropBlanks letters)
    apply first_of_drop_blanks letters first
    rw [← whole, List.head?_append]
    exact Option.or_eq_some_iff.mpr (.inl found)
  closes := last_of_drop_end isBlank (dropBlanks letters)

theorem IsTrimmed.trim_letters {letters : List Char} (trimmed : IsTrimmed letters) :
    trimLetters letters = letters := by
  rw [trimLetters, drop_blanks_of_opening trimmed.opens]
  exact drop_end_of_last trimmed.closes

/-- A text of which nothing is left was made of blanks. -/
theorem trim_letters_eq_nil_iff {letters : List Char} :
    trimLetters letters = [] ↔ ∀ letter ∈ letters, isBlank letter = true := by
  have ending : trimLetters letters = [] ↔ ∀ letter ∈ dropBlanks letters, isBlank letter = true :=
    List.rdropWhile_eq_nil_iff
  rw [ending]
  refine ⟨fun blank letter member => ?_, fun blank letter member => ?_⟩
  · cases shown : isBlank letter with
    | true => rfl
    | false => exact shown ▸ blank letter (mem_drop_blanks member shown)
  · exact blank letter ((List.dropWhile_sublist isBlank).mem member)

theorem trim_eq_empty_iff {text : String} :
    trim text = "" ↔ ∀ letter ∈ text.toList, isBlank letter = true := by
  rw [← trim_letters_eq_nil_iff, trim, ← String.toList_eq_nil_iff, String.toList_ofList]

theorem trim_trim (text : String) : trim (trim text) = trim text := by
  rw [trim, trim, String.toList_ofList, (is_trimmed_trim text.toList).trim_letters]

end CollectionTypes.Text
