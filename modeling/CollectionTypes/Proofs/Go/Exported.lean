import CollectionTypes.Go.Struct
import CollectionTypes.Proofs.Naming.Identifier

/-!
When an exported name is one. Whatever the text that a name is made of, the name opens with an ASCII
letter and goes on with letters and digits. The letter is a capital, except where the first letter
that is kept is small and stands right behind one that is dropped without parting words: then the
name is not exported, and it may be a keyword. Suffixes that tell names apart change none of this.
-/

namespace CollectionTypes.Naming

def droppedFront (letters : List Char) : List Char := letters.takeWhile (!·.isAlphanum)

def keptPart (letters : List Char) : List Char := letters.dropWhile (!·.isAlphanum)

/-- Whether a letter behind others that are dropped is capitalized: the last of them decides. -/
def capitalizesAfter (capital : Bool) (dropped : List Char) : Bool :=
  (dropped.getLast?.map isSeparator).getD capital

/-- The first letter that a name keeps is small, and stands behind one that parts no words. -/
def opensSmall (text : String) : Bool :=
  let letters := Text.trimLetters text.toList
  (keptPart letters).head?.any (·.isLower) && !capitalizesAfter true (droppedFront letters)

theorem capitalizes_after_cons (capital : Bool) (first : Char) (dropped : List Char) :
    capitalizesAfter capital (first :: dropped) =
      capitalizesAfter (isSeparator first) dropped := by
  cases dropped with
  | nil => rfl
  | cons second rest => simp [capitalizesAfter, List.getLast?_cons]

/-- The first letter of a name is the first that is kept. What was dropped before it has a say in
whether it is capitalized, and in nothing else. -/
theorem pascal_from_opening (capital : Bool) (letters : List Char) :
    (pascalFrom capital letters).head? = (keptPart letters).head?.map fun first =>
      if first.isAlpha && capitalizesAfter capital (droppedFront letters) then first.toUpper
      else first := by
  induction letters generalizing capital with
  | nil => rfl
  | cons first rest induction =>
      rw [pascalFrom]
      by_cases alpha : first.isAlpha = true
      · have kept : first.isAlphanum = true := by simp [Char.isAlphanum, alpha]
        simp [alpha, kept, keptPart, droppedFront, capitalizesAfter]
      · by_cases digit : first.isDigit = true
        · have kept : first.isAlphanum = true := by simp [Char.isAlphanum, digit]
          simp [alpha, digit, kept, keptPart]
        · have dropped : first.isAlphanum = false := by simp [Char.isAlphanum, alpha, digit]
          have front : droppedFront (first :: rest) = first :: droppedFront rest := by
            simp [droppedFront, dropped]
          have part : keptPart (first :: rest) = keptPart rest := by simp [keptPart, dropped]
          rw [if_neg alpha, if_neg digit, induction, front, part, capitalizes_after_cons]

theorem to_upper_is_upper {letter : Char} (alpha : letter.isAlpha = true) :
    letter.toUpper.isUpper = true :=
  of_alphanumeric (fun letter => letter.isAlpha = true → letter.toUpper.isUpper = true)
    (by decide) (by simp [Char.isAlphanum, alpha]) alpha

theorem upper_iff_not_lower {letter : Char} (alpha : letter.isAlpha = true) :
    letter.isUpper = !letter.isLower :=
  of_alphanumeric (fun letter => letter.isAlpha = true → letter.isUpper = !letter.isLower)
    (by decide) (by simp [Char.isAlphanum, alpha]) alpha

theorem digit_not_alpha {letter : Char} (digit : letter.isDigit = true) :
    letter.isAlpha = false :=
  of_alphanumeric (fun letter => letter.isDigit = true → letter.isAlpha = false)
    (by decide) (by simp [Char.isAlphanum, digit]) digit

theorem alpha_of_alphanumeric {letter : Char} (alphanumeric : letter.isAlphanum = true)
    (noDigit : letter.isDigit = false) : letter.isAlpha = true := by
  simpa [Char.isAlphanum, noDigit] using alphanumeric

section Capitalized

variable {letter first : Char} {capital : Bool}
  (decided : (if letter.isAlpha && capital then letter.toUpper else letter) = first)

include decided

theorem upper_of_capitalized (alpha : first.isAlpha = true) :
    first.isUpper = !(letter.isLower && !capital) := by
  cases capital with
  | false =>
      rw [Bool.and_false, if_neg Bool.false_ne_true] at decided
      rw [decided, upper_iff_not_lower alpha, Bool.not_false, Bool.and_true]
  | true =>
      rw [Bool.and_true] at decided
      rw [Bool.not_true, Bool.and_false, Bool.not_false]
      split at decided
      · rename_i letterAlpha
        rw [← decided]
        exact to_upper_is_upper letterAlpha
      · rename_i noAlpha
        rw [decided] at noAlpha
        exact absurd alpha noAlpha

/-- Capitals make no digits. -/
theorem not_small_of_digit (digit : first.isDigit = true) :
    (letter.isLower && !capital) = false := by
  have noAlpha := digit_not_alpha digit
  cases small : letter.isLower with
  | false => rfl
  | true =>
      have alpha : letter.isAlpha = true := Bool.or_eq_true_iff.mpr (Or.inr small)
      cases capital with
      | true => rfl
      | false =>
          rw [Bool.and_false, if_neg Bool.false_ne_true] at decided
          rw [decided, noAlpha] at alpha
          contradiction

end Capitalized

end CollectionTypes.Naming

namespace CollectionTypes.Go

open Naming

/-- A name that is seen outside its package: a capital, then letters and digits, and nothing that
the language has taken. -/
def isExported (name : String) : Bool :=
  match name.toList with
  | [] => false
  | first :: rest => first.isUpper && rest.all (·.isAlphanum) && !isReserved name

theorem reserved_open_small :
    ∀ word ∈ reserved, word.toList.head?.any (·.isUpper) = false := by
  decide +kernel

theorem exported_iff_upper {name : String} {first : Char} {rest : List Char}
    (letters : name.toList = first :: rest) (others : ∀ letter ∈ rest, letter.isAlphanum = true) :
    isExported name = first.isUpper := by
  have all : rest.all (·.isAlphanum) = true := List.all_eq_true.mpr others
  cases upper : first.isUpper with
  | false => simp [isExported, letters, upper]
  | true =>
      have free : isReserved name = false := by
        rw [isReserved, ← Bool.not_eq_true, List.contains_iff_mem]
        intro member
        have small := reserved_open_small name member
        rw [letters, List.head?_cons, Option.any_some, upper] at small
        contradiction
      simp only [isExported, letters, upper, all, free]
      rfl

/-- The letters of an exported name, and what decides on the first of them. -/
theorem exported_name_letters (name : String) :
    ∃ first rest, (exportedName name).toList = first :: rest ∧ first.isAlpha = true ∧
      (∀ letter ∈ rest, letter.isAlphanum = true) ∧ first.isUpper = !opensSmall name := by
  have opening := pascal_from_opening true (Text.trimLetters name.toList)
  have own := pascal_letters_alphanumeric true (Text.trimLetters name.toList)
  simp only [exportedName, opensSmall]
  rw [← pascalLetters] at opening own
  generalize capitalizesAfter true (droppedFront (Text.trimLetters name.toList)) = capital
    at opening ⊢
  generalize (keptPart (Text.trimLetters name.toList)).head? = kept at opening ⊢
  cases letters : pascalLetters name with
  | nil =>
      rw [letters, List.head?_nil] at opening
      have none : kept = .none := by simpa using opening.symm
      exact ⟨'X', [], rfl, rfl, by simp, by simp [none]⟩
  | cons first rest =>
      rw [letters] at opening own
      obtain ⟨letter, found, decided⟩ := Option.map_eq_some_iff.mp opening.symm
      have firstOwn := own first (List.mem_cons_self ..)
      have restOwn := fun other member => own other (List.mem_cons_of_mem _ member)
      by_cases digit : first.isDigit = true
      · refine ⟨'X', first :: rest, ?_, rfl, own, ?_⟩
        · simp [leadingLetter, digit]
        · rw [found, Option.any_some, not_small_of_digit decided digit]
          rfl
      · have alpha := alpha_of_alphanumeric firstOwn (Bool.not_eq_true _ ▸ digit)
        refine ⟨first, rest, ?_, alpha, restOwn, ?_⟩
        · simp [leadingLetter, digit]
        · rw [found]
          exact upper_of_capitalized decided alpha

/-- The name made for a text opens with a letter and goes on with letters and digits, whatever the
text. It is exported, and free to be declared, exactly unless the text opens small. -/
theorem exported_name_exported_iff (name : String) :
    (∃ first rest, (exportedName name).toList = first :: rest ∧ first.isAlpha = true ∧
        rest.all (·.isAlphanum) = true) ∧
      (isExported (exportedName name) = true ↔ opensSmall name = false) := by
  obtain ⟨first, rest, letters, alpha, others, capital⟩ := exported_name_letters name
  refine ⟨⟨first, rest, letters, alpha, List.all_eq_true.mpr others⟩, ?_⟩
  rw [exported_iff_upper letters others, capital, Bool.not_eq_true']

/-- A letter outside ASCII is dropped and leaves the next one small. So does a mark before a
keyword, which then stands as it is. -/
theorem dropped_front_not_exported :
    exportedName "école" = "cole" ∧ isExported (exportedName "école") = false ∧
      exportedName "!type" = "type" ∧ isReserved (exportedName "!type") = true := by
  decide +kernel

/-- A suffix has no say in whether a name is exported. -/
theorem candidate_exported (name : String) (suffix : Nat) :
    isExported (Namespace.candidate (exportedName name) suffix) = !opensSmall name := by
  obtain ⟨first, rest, letters, _, others, capital⟩ := exported_name_letters name
  unfold Namespace.candidate
  split
  · rw [exported_iff_upper letters others, capital]
  · have longer : (exportedName name ++ Text.Decimal.write suffix).toList =
        first :: (rest ++ Text.Decimal.digits suffix) := by
      rw [String.toList_append, letters, Text.Decimal.write, String.toList_ofList]
      rfl
    rw [exported_iff_upper longer, capital]
    intro letter member
    rcases List.mem_append.mp member with own | digit
    · exact others letter own
    · exact digits_alphanumeric suffix letter digit

namespace Struct

theorem claim_all_candidates (space : Namespace) (stems : List String) :
    List.Forall₂ (fun name stem => ∃ suffix, name = Namespace.candidate stem suffix)
      (space.claimAll stems).1 stems := by
  induction stems generalizing space with
  | nil => exact .nil
  | cons stem stems induction =>
      obtain ⟨suffix, _, claimed⟩ := Namespace.claim_spec space stem
      exact .cons ⟨suffix, congrArg Prod.fst claimed⟩ (induction _)

/-- The fields of a struct are those that were put in, but for suffixes of their names. -/
theorem distinguish_candidates {fields : List StructField} :
    ∀ field ∈ distinguish fields, ∃ original ∈ fields, ∃ suffix,
      field = { original with name := Namespace.candidate original.name suffix } := by
  have candidates := claim_all_candidates {} (fields.map (·.name))
  simp only [distinguish]
  generalize (({} : Namespace).claimAll (fields.map (·.name))).1 = names at candidates
  induction fields generalizing names with
  | nil => simp
  | cons first fields induction =>
      cases candidates with
      | cons own others =>
          obtain ⟨suffix, rfl⟩ := own
          intro field member
          rcases List.mem_cons.mp member with rfl | later
          · exact ⟨first, List.mem_cons_self .., suffix, rfl⟩
          · obtain ⟨original, originalMember, found⟩ := induction _ others field later
            exact ⟨original, List.mem_cons_of_mem _ originalMember, found⟩

/-- A field is exported, so that its key is read and written, unless its key opens small. -/
theorem field_exported (style : Style) (symbols : Symbols) (model : Model) :
    ∀ field ∈ (ofModel style symbols model).fields ++ (expansionOf symbols model).fields,
      isExported field.name = !opensSmall field.key := by
  have named {fields : List StructField}
      (own : ∀ field ∈ fields, field.name = exportedName field.key) :
      ∀ field ∈ distinguish fields, isExported field.name = !opensSmall field.key := by
    intro field member
    obtain ⟨original, originalMember, suffix, rfl⟩ := distinguish_candidates field member
    rw [own original originalMember]
    exact candidate_exported original.key suffix
  intro field member
  rcases List.mem_append.mp member with plain | expanded
  · refine named ?_ field plain
    intro field member
    rcases List.mem_append.mp member with property | expand
    · obtain ⟨_, _, rfl⟩ := List.mem_map.mp property
      rfl
    · split at expand
      · have same : expandField = exportedName expandKey := by decide +kernel
        rw [List.mem_singleton.mp expand]
        exact same
      · contradiction
  · refine named ?_ field expanded
    intro field member
    obtain ⟨_, _, rfl⟩ := List.mem_map.mp member
    rfl

end Struct

end CollectionTypes.Go
