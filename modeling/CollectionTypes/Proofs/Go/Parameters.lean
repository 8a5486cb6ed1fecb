import CollectionTypes.Proofs.Go.Exported
import CollectionTypes.Proofs.Go.Methods
import Mathlib.Data.List.TakeWhile

/-!
Parameters of setters. A parameter is usable if a body can declare it and read it: it is an
identifier, it is not the blank one, and neither the language nor the body has the name already. The
underscore in front keeps a name clear of all of these, but it cannot stand alone, as it does for a
field without a single letter or digit.
-/

namespace CollectionTypes.Naming

theorem alphanumeric_shown {letter : Char} (alphanumeric : letter.isAlphanum = true) :
    Text.isBlank letter = false :=
  of_alphanumeric (fun letter => letter.isAlphanum = true → Text.isBlank letter = false)
    (by decide) alphanumeric alphanumeric

theorem mem_of_mem_trim {letters : List Char} {letter : Char}
    (member : letter ∈ Text.trimLetters letters) : letter ∈ letters := by
  have inside := (List.dropWhile_sublist _).subset (List.mem_reverse.mp member)
  exact (List.dropWhile_sublist _).subset (List.mem_reverse.mp inside)

/-- A name is empty only if there is nothing to keep. -/
theorem pascal_from_nil_iff (capital : Bool) (letters : List Char) :
    pascalFrom capital letters = [] ↔ ∀ letter ∈ letters, letter.isAlphanum = false := by
  rw [← List.head?_eq_none_iff, pascal_from_opening, Option.map_eq_none_iff,
    List.head?_eq_none_iff, keptPart, List.dropWhile_eq_nil_iff]
  simp

theorem camel_letters_nil_iff (name : String) :
    camelLetters name = [] ↔ ∀ letter ∈ name.toList, letter.isAlphanum = false := by
  have small : camelLetters name = [] ↔ pascalLetters name = [] := by
    unfold camelLetters
    split <;> simp [*]
  rw [small, pascalLetters, pascal_from_nil_iff]
  constructor
  · intro none letter member
    by_contra kept
    have alphanumeric := Bool.not_eq_false _ ▸ kept
    have inside := Text.mem_trim_letters member (alphanumeric_shown alphanumeric)
    rw [none letter inside] at alphanumeric
    contradiction
  · exact fun none letter member => none letter (mem_of_mem_trim member)

end CollectionTypes.Naming

namespace CollectionTypes.Go

open Naming

/-- A name that a body can declare and read although it has bound `taken`. -/
def isUsable (taken : List String) (name : String) : Bool :=
  match name.toList with
  | [] => false
  | first :: rest =>
      (first.isAlpha || first = '_') && rest.all (·.isAlphanum) && name != "_" &&
        !isReserved name && !taken.contains name

def Unmarked (words : List String) : Prop := ∀ word ∈ words, word.toList.head? ≠ some '_'

instance (words : List String) : Decidable (Unmarked words) :=
  inferInstanceAs (Decidable (∀ word ∈ words, word.toList.head? ≠ some '_'))

theorem marked_not_contained {words : List String} (unmarked : Unmarked words) (rest : String) :
    words.contains ("_" ++ rest) = false := by
  rw [← Bool.not_eq_true, List.contains_iff_mem]
  intro member
  exact unmarked _ member (by simp)

theorem reserved_unmarked : Unmarked reserved := by decide +kernel

section Parameter

variable {taken : List String} {letters : List Char}
  (alphanumeric : ∀ letter ∈ letters, letter.isAlphanum = true)

include alphanumeric

theorem marked_usable (unmarked : Unmarked taken) (some : letters ≠ []) :
    isUsable taken ("_" ++ String.ofList letters) = true := by
  have spelled : ("_" ++ String.ofList letters).toList = '_' :: letters := by simp
  have all : letters.all (·.isAlphanum) = true := List.all_eq_true.mpr alphanumeric
  have longer : ("_" ++ String.ofList letters != "_") = true := by
    simpa [← String.toList_inj] using some
  have free : isReserved ("_" ++ String.ofList letters) = false :=
    marked_not_contained reserved_unmarked (String.ofList letters)
  have unbound := marked_not_contained unmarked (String.ofList letters)
  simp only [isUsable, spelled, all, longer, free, unbound]
  rfl

theorem plain_usable {first : Char} (opens : letters.head? = some first)
    (noDigit : first.isDigit = false) (free : isReserved (String.ofList letters) = false)
    (unbound : taken.contains (String.ofList letters) = false) :
    isUsable taken (String.ofList letters) = true := by
  obtain ⟨rest, rfl⟩ := List.head?_eq_some_iff.mp opens
  have alpha : first.isAlpha = true :=
    alpha_of_alphanumeric (alphanumeric first (List.mem_cons_self ..)) noDigit
  have all : rest.all (·.isAlphanum) = true :=
    List.all_eq_true.mpr fun letter member => alphanumeric letter (List.mem_cons_of_mem _ member)
  have unblank : (String.ofList (first :: rest) != "_") = true := by
    rw [bne_iff_ne]
    intro blank
    have spelled : first :: rest = ['_'] := by simpa using congrArg String.toList blank
    rw [(List.cons.inj spelled).1] at alpha
    exact absurd alpha (by decide)
  simp only [isUsable, String.toList_ofList, alpha, all, unblank, free, unbound]
  rfl

end Parameter

theorem parameter_name_usable (name : String) {taken : List String} (unmarked : Unmarked taken)
    (some : camelLetters name ≠ []) : isUsable taken (parameterName name taken) = true := by
  have own := camel_letters_alphanumeric name
  cases letters : camelLetters name with
  | nil => exact absurd letters some
  | cons first rest =>
      rw [letters] at own
      have marked := marked_usable own unmarked (List.cons_ne_nil _ _)
      simp only [parameterName, letters]
      split
      · exact marked
      · rename_i plain
        simp only [Bool.or_eq_true, not_or, Bool.not_eq_true] at plain
        exact plain_usable own rfl plain.1.1 plain.1.2 plain.2

theorem parameter_name_blank {name : String} (none : camelLetters name = []) (taken : List String) :
    parameterName name taken = "_" := by
  simp only [parameterName, none, Bool.true_or, if_true]
  rfl

def hasNameLetter (text : String) : Bool := text.toList.any (·.isAlphanum)

theorem camel_letters_some_iff (name : String) :
    camelLetters name ≠ [] ↔ hasNameLetter name = true := by
  rw [Ne, camel_letters_nil_iff, hasNameLetter, List.any_eq_true]
  simp

namespace Record

/-- The parameter for a field is usable exactly if the field has a letter or a digit, and the blank
identifier otherwise. All parameters of a record type are of this kind. -/
theorem parameters_usable_iff (symbols : Symbols) (model : Model) :
    (∀ name, (isUsable locals (parameterName name locals) = true ↔ hasNameLetter name = true) ∧
        (parameterName name locals = "_" ↔ hasNameLetter name = false)) ∧
      ∀ method ∈ methods symbols model, ∀ parameter ∈ method.parameters,
        ∃ property ∈ model.properties, parameter = parameterName property.name locals ∧
          (isUsable locals parameter = true ↔ hasNameLetter property.name = true) := by
  have usable (name : String) (kept : hasNameLetter name = true) :=
    parameter_name_usable name (show Unmarked locals by decide)
      ((camel_letters_some_iff name).mpr kept)
  have blank (name : String) (empty : hasNameLetter name = false) :
      parameterName name locals = "_" := by
    apply parameter_name_blank
    by_contra some
    rw [(camel_letters_some_iff name).mp some] at empty
    contradiction
  have unusable : isUsable locals "_" = false := by decide
  have decided (name : String) :
      isUsable locals (parameterName name locals) = true ↔ hasNameLetter name = true := by
    refine ⟨?_, usable name⟩
    intro isUsable
    by_contra none
    rw [blank name (Bool.not_eq_true _ ▸ none), unusable] at isUsable
    contradiction
  refine ⟨fun name => ⟨decided name, ?_, blank name⟩, ?_⟩
  · intro isBlank
    rw [← Bool.not_eq_true, ← decided name, isBlank, unusable]
    exact Bool.false_ne_true
  · intro method member parameter isParameter
    obtain ⟨property, inModel, found⟩ := method_of_all_methods member
    cases found with
    | setter word writable =>
        rw [List.mem_singleton.mp isParameter]
        exact ⟨property, inModel, rfl, decided property.name⟩
    | getter word | integerGetter word _ | expander word _ => contradiction

def markedModel : Model :=
  ⟨{ name := "items" }, [
    { name := "type", owner := "items", kind := .text, data := .plain },
    { name := "p", owner := "items", kind := .number, data := .plain },
    { name := "2fa", owner := "items", kind := .boolean, data := .plain },
    { name := "!!", owner := "items", kind := .text, data := .plain }]⟩

theorem parameters_usable_iff_marked :
    ∃ method ∈ methods (Symbols.ofModels [markedModel] .goRecord) markedModel,
      "_type" ∈ method.parameters ∧ ∃ property ∈ markedModel.properties,
        "_type" = parameterName property.name locals ∧
          (isUsable locals "_type" = true ↔ hasNameLetter property.name = true) := by
  have declared : ∃ method ∈ methods (Symbols.ofModels [markedModel] .goRecord) markedModel,
      "_type" ∈ method.parameters := by
    decide +kernel
  obtain ⟨method, member, parameter⟩ := declared
  exact ⟨method, member, parameter,
    (parameters_usable_iff _ markedModel).2 method member "_type" parameter⟩

/-- A setter declares the blank identifier and reads it. -/
theorem blank_parameter_declared :
    ∃ method ∈ methods (Symbols.ofModels [markedModel] .goRecord) markedModel,
      parameterName "!!" locals ∈ method.parameters ∧ parameterName "!!" locals = "_" ∧
        isUsable locals (parameterName "!!" locals) = false := by
  decide +kernel

end Record

end CollectionTypes.Go
