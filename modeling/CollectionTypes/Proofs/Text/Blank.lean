import CollectionTypes.Text.Basic
import Mathlib.Data.List.Basic

/-!
White space at the ends of a text. Trimming takes nothing but blanks, and nothing at all from a text
that has none. Which letters are blank is no part of this.
-/

namespace CollectionTypes.Text

theorem mem_drop_blanks {letters : List Char} {letter : Char} (member : letter ∈ letters)
    (shown : isBlank letter = false) : letter ∈ dropBlanks letters := by
  rw [← List.takeWhile_append_dropWhile (p := isBlank) (l := letters)] at member
  rcases List.mem_append.mp member with blank | kept
  · have isBlank := List.all_eq_true.mp List.all_takeWhile letter blank
    rw [shown] at isBlank
    contradiction
  · exact kept

theorem mem_trim_letters {letters : List Char} {letter : Char} (member : letter ∈ letters)
    (shown : isBlank letter = false) : letter ∈ trimLetters letters := by
  have kept := mem_drop_blanks (List.mem_reverse.mpr (mem_drop_blanks member shown)) shown
  exact List.mem_reverse.mpr kept

/-- A text in front loses blanks, but what is shown at both of its ends stays whole. -/
theorem trim_letters_append (letters : List Char) {first last : Char} {middle : List Char}
    (opens : isBlank first = false) (closes : isBlank last = false) :
    trimLetters (letters ++ (first :: middle ++ [last])) =
      dropBlanks letters ++ (first :: middle ++ [last]) := by
  have start : dropBlanks (letters ++ (first :: middle ++ [last])) =
      dropBlanks letters ++ (first :: middle ++ [last]) := by
    unfold dropBlanks
    rw [List.dropWhile_append]
    split
    · rename_i none
      rw [List.isEmpty_iff.mp none]
      simp [opens]
    · rfl
  rw [trimLetters, start, dropEndBlanks, dropEnd]
  simp [closes]

theorem drop_blanks_of_opening {letters : List Char}
    (opens : ∀ letter ∈ letters.head?, isBlank letter = false) : dropBlanks letters = letters := by
  cases letters with
  | nil => rfl
  | cons first rest => exact List.dropWhile_cons_of_neg (by simp [opens first rfl])

theorem drop_blanks_append {before : List Char}
    (blank : ∀ letter ∈ before, isBlank letter = true) (letters : List Char) :
    dropBlanks (before ++ letters) = dropBlanks letters :=
  List.dropWhile_append_of_pos blank

/-- Blanks at both ends go, up to what is shown. -/
theorem trim_letters_between {before text after : List Char}
    (beforeBlank : ∀ letter ∈ before, isBlank letter = true)
    (afterBlank : ∀ letter ∈ after, isBlank letter = true) (some : text ≠ [])
    (opens : ∀ letter ∈ text.head?, isBlank letter = false)
    (closes : ∀ letter ∈ text.getLast?, isBlank letter = false) :
    trimLetters (before ++ (text ++ after)) = text := by
  have start : dropBlanks (before ++ (text ++ after)) = text ++ after := by
    rw [drop_blanks_append beforeBlank]
    apply drop_blanks_of_opening
    rwa [List.head?_append_of_ne_nil _ some]
  have behind : ∀ letter ∈ after.reverse, isBlank letter = true := fun letter member =>
    afterBlank letter (List.mem_reverse.mp member)
  have ending : dropBlanks (text ++ after).reverse = text.reverse := by
    rw [List.reverse_append, drop_blanks_append behind]
    apply drop_blanks_of_opening
    rwa [← List.getLast?_eq_head?_reverse]
  rw [trimLetters, start]
  exact (congrArg List.reverse ending).trans (List.reverse_reverse text)

theorem drop_blanks_of_shown {letters : List Char}
    (shown : ∀ letter ∈ letters, isBlank letter = false) : dropBlanks letters = letters :=
  drop_blanks_of_opening fun letter first => shown letter (List.mem_of_head? first)

theorem trim_of_shown {letters : List Char} (shown : ∀ letter ∈ letters, isBlank letter = false) :
    trimLetters letters = letters := by
  have reversed : dropBlanks letters.reverse = letters.reverse :=
    drop_blanks_of_shown fun letter member => shown letter (List.mem_reverse.mp member)
  have ending : dropEndBlanks letters = letters :=
    (congrArg List.reverse reversed).trans (List.reverse_reverse letters)
  rw [trimLetters, drop_blanks_of_shown shown, ending]

end CollectionTypes.Text
