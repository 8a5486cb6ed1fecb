import CollectionTypes.Proofs.Go.Methods
import CollectionTypes.Proofs.Text.Literals

/-!
Where the declarations of a record type and of enumerations hold texts of users: in string literals,
and nowhere else but in names. With the literals emptied, each declaration is the one for empty
texts. Tags of struct fields are no string literals and are left out.
-/

namespace CollectionTypes.Go

open Naming Text Quoted

theorem unquoted_of_known {name : String} (known : name ∈ vocabulary ∨ IsWord name) :
    Unquoted name := by
  rcases known with stock | word
  · exact unquoted_of_dotted (List.all_eq_true.mp (vocabulary_dotted name stock))
  · exact unquoted_of_word word

theorem unquoted_type {type : TypeExpr} (plain : ∀ name ∈ type.leaf?, Unquoted name) :
    Unquoted type.write := by
  induction type with
  | named name => exact plain name rfl
  | objectMap => decide
  | pointer target induction => exact unquoted_append (by decide) (induction plain)
  | slice element induction => exact unquoted_append (by decide) (induction plain)

section Bodies

variable {rest code : String} {values : List String}

theorem Reading.dissects_body {reading : Reading}
    (plain : ∀ name ∈ reading.typeName?, Unquoted name) (field : String)
    (tail : Dissects rest code values) :
    Dissects (reading.body (literal field) ++ rest) (reading.body (literal "") ++ code)
      (field :: values) := by
  have selected {selection : String} (known : Unquoted selection) :
      Dissects (selectedBody selection (literal field) ++ rest)
        (selectedBody selection (literal "") ++ code) (field :: values) := by
    unfold selectedBody
    simp only [String.append_assoc, -String.reduceAppend]
    apply dissects_code (by decide)
    apply dissects_text known
    apply dissects_code (by decide)
    apply dissects_literal field
    exact dissects_code (by decide) tail
  cases reading with
  | decoded =>
      rw [body, body]
      unfold decodedBody
      simp only [String.append_assoc, -String.reduceAppend]
      apply dissects_code (by decide)
      apply dissects_code (by decide)
      apply dissects_literal field
      apply dissects_code (by decide)
      apply dissects_code (by decide)
      apply dissects_code (by decide)
      exact dissects_code (by decide) tail
  | enumSlice typeName =>
      have named := plain typeName rfl
      rw [body, body]
      unfold enumSliceBody
      simp only [String.append_assoc, -String.reduceAppend]
      apply dissects_code (by decide)
      apply dissects_literal field
      apply dissects_code (by decide)
      apply dissects_code (by decide)
      apply dissects_text named
      apply dissects_code (by decide)
      apply dissects_code (by decide)
      apply dissects_code (by decide)
      apply dissects_text named
      apply dissects_code (by decide)
      apply dissects_code (by decide)
      exact dissects_code (by decide) tail
  | enum typeName =>
      rw [body, body]
      unfold enumBody
      simp only [String.append_assoc, -String.reduceAppend]
      apply dissects_code (by decide)
      apply dissects_text (plain typeName rfl)
      apply dissects_code (by decide)
      apply dissects_literal field
      exact dissects_code (by decide) tail
  | float | boolean | dateTime | stringSlice | string => exact selected (by decide)

theorem Writing.dissects_body (writing : Writing) {parameter : String}
    (unquoted : Unquoted parameter) (field : String) (tail : Dissects rest code values) :
    Dissects (writing.body (literal field) parameter ++ rest)
      (writing.body (literal "") parameter ++ code) (field :: values) := by
  cases writing with
  | enumSlice =>
      rw [body, body]
      unfold enumSliceBody
      simp only [String.append_assoc, -String.reduceAppend]
      apply dissects_code (by decide)
      apply dissects_text unquoted
      apply dissects_code (by decide)
      apply dissects_code (by decide)
      apply dissects_text unquoted
      apply dissects_code (by decide)
      apply dissects_code (by decide)
      apply dissects_code (by decide)
      apply dissects_code (by decide)
      apply dissects_literal field
      exact dissects_code (by decide) tail
  | enum =>
      rw [body, body]
      unfold enumBody
      simp only [String.append_assoc, -String.reduceAppend]
      apply dissects_code (by decide)
      apply dissects_literal field
      apply dissects_code (by decide)
      apply dissects_text unquoted
      exact dissects_code (by decide) tail
  | plain =>
      rw [body, body]
      unfold plainBody
      simp only [String.append_assoc, -String.reduceAppend]
      apply dissects_code (by decide)
      apply dissects_literal field
      apply dissects_code (by decide)
      apply dissects_text unquoted
      exact dissects_code (by decide) tail

theorem Expansion.dissects_body {expansion : Expansion}
    (plain : ∀ name ∈ expansion.typeName?, Unquoted name) (field : String)
    (tail : Dissects rest code values) :
    Dissects (expansion.body (literal field) ++ rest) (expansion.body (literal "") ++ code)
      (field :: field :: field :: values) := by
  have wrapped {typeName : String} (named : Unquoted typeName) :
      Unquoted (Target.wrapName typeName) := unquoted_append (by decide) named
  have loaded {picked pickedCode : String} {pickedValues : List String}
      (parts : Dissects picked pickedCode pickedValues) :
      Dissects (load (literal field) ++ picked) (load (literal "") ++ pickedCode)
        (field :: field :: pickedValues) := by
    unfold load
    simp only [String.append_assoc, -String.reduceAppend]
    apply dissects_code (by decide)
    apply dissects_literal field
    apply dissects_code (by decide)
    apply dissects_code (by decide)
    apply dissects_literal field
    apply dissects_code (by decide)
    apply dissects_code (by decide)
    exact dissects_code (by decide) parts
  rw [body, body, String.append_assoc, String.append_assoc]
  apply loaded
  cases expansion with
  | many typeName =>
      have named := plain typeName rfl
      rw [pick, pick]
      unfold pickMany
      simp only [String.append_assoc, -String.reduceAppend]
      apply dissects_code (by decide)
      apply dissects_literal field
      apply dissects_code (by decide)
      apply dissects_code (by decide)
      apply dissects_text named
      apply dissects_code (by decide)
      apply dissects_code (by decide)
      apply dissects_code (by decide)
      apply dissects_text (wrapped named)
      apply dissects_code (by decide)
      apply dissects_code (by decide)
      exact dissects_code (by decide) tail
  | one typeName =>
      rw [pick, pick]
      unfold pickOne
      simp only [String.append_assoc, -String.reduceAppend]
      apply dissects_code (by decide)
      apply dissects_literal field
      apply dissects_code (by decide)
      apply dissects_code (by decide)
      apply dissects_code (by decide)
      apply dissects_code (by decide)
      apply dissects_code (by decide)
      apply dissects_text (wrapped (plain typeName rfl))
      exact dissects_code (by decide) tail
  | manyUntyped | oneUntyped =>
      rw [pick, pick]
      unfold pickUntyped
      simp only [String.append_assoc, -String.reduceAppend]
      apply dissects_code (by decide)
      apply dissects_text (by decide)
      apply dissects_code (by decide)
      apply dissects_literal field
      exact dissects_code (by decide) tail

end Bodies

namespace Method

def field : Method → String
  | .getter _ field _ _ | .integerGetter _ field | .setter _ field _ _ _
  | .expander _ field _ => field

def onField (field : String) : Method → Method
  | .getter name _ result reading => .getter name field result reading
  | .integerGetter name _ => .integerGetter name field
  | .setter name _ parameter type writing => .setter name field parameter type writing
  | .expander name _ expansion => .expander name field expansion

def mentions : Method → Nat
  | .expander _ _ _ => 3
  | _ => 1

theorem dissects_tail {method : Method} (bound : ∀ name ∈ method.parameters, Unquoted name)
    (plain : ∀ name ∈ method.typeNames, Unquoted name) :
    Dissects method.tail (method.onField "").tail
      (List.replicate method.mentions method.field) := by
  cases method with
  | getter name field result reading =>
      have resultPlain : Unquoted result.write := unquoted_type fun name member =>
        plain name (List.mem_append_left _ (Option.mem_toList.mpr member))
      rw [onField, tail, tail]
      unfold getterTail
      simp only [String.append_assoc, -String.reduceAppend]
      apply dissects_code (by decide)
      apply dissects_text resultPlain
      apply dissects_code (by decide)
      refine Reading.dissects_body (fun name member => ?_) field (dissects_last (by decide))
      exact plain name (List.mem_append_right _ (Option.mem_toList.mpr member))
  | integerGetter name field =>
      rw [onField, tail, tail]
      unfold integerTail
      simp only [String.append_assoc, -String.reduceAppend]
      apply dissects_code (by decide)
      exact dissects_literal field (dissects_last (by decide))
  | setter name field parameter type writing =>
      have parameterPlain := bound parameter (List.mem_singleton_self _)
      have typePlain : Unquoted type.write := unquoted_type fun name member =>
        plain name (Option.mem_toList.mpr member)
      rw [onField, tail, tail]
      unfold setterTail
      simp only [String.append_assoc, -String.reduceAppend]
      apply dissects_code (by decide)
      apply dissects_text parameterPlain
      apply dissects_code (by decide)
      apply dissects_text typePlain
      apply dissects_code (by decide)
      exact Writing.dissects_body writing parameterPlain field (dissects_last (by decide))
  | expander name field expansion =>
      have typePlain : Unquoted expansion.type.write := unquoted_type fun name member =>
        plain name (List.mem_append_left _ (Option.mem_toList.mpr member))
      rw [onField, tail, tail]
      unfold expanderTail
      simp only [String.append_assoc, -String.reduceAppend]
      apply dissects_code (by decide)
      apply dissects_text typePlain
      apply dissects_code (by decide)
      refine Expansion.dissects_body (fun name member => ?_) field (dissects_last (by decide))
      apply plain name
      apply List.mem_append_right
      simp [Expansion.typeNames, Option.mem_def.mp member]

theorem dissects_write {receiver : String} (receiverPlain : Unquoted receiver) {method : Method}
    (own : Unquoted method.name) (bound : ∀ name ∈ method.parameters, Unquoted name)
    (plain : ∀ name ∈ method.typeNames, Unquoted name) :
    Dissects (method.write receiver) ((method.onField "").write receiver)
      (List.replicate method.mentions method.field) := by
  have same : (method.onField "").name = method.name := by cases method <;> rfl
  rw [write, write, same]
  unfold head
  simp only [String.append_assoc, -String.reduceAppend]
  apply dissects_code (by decide)
  apply dissects_text receiverPlain
  apply dissects_code (by decide)
  exact dissects_text own (dissects_tail bound plain)

end Method

namespace Record

/-- A method holds the name of its field, in literals only. -/
theorem dissects_method {symbols : Symbols} (worded : symbols.Worded) {model : Model}
    {method : Method} (member : method ∈ methods symbols model) :
    (∃ property ∈ model.properties, property.name = method.field) ∧
      Dissects (method.write (symbols.typeName model.name))
        ((method.onField "").write (symbols.typeName model.name))
        (List.replicate method.mentions method.field) := by
  obtain ⟨property, inModel, found⟩ := method_of_all_methods member
  have named : property.name = method.field := by cases found <;> rfl
  refine ⟨⟨property, inModel, named⟩, Method.dissects_write ?_ ?_ ?_ ?_⟩
  · exact unquoted_of_word (worded.types model.name)
  · exact unquoted_of_word found.word
  · exact fun name bound => unquoted_of_word (method_of_parameters found name bound)
  · exact fun name type => unquoted_of_known (method_of_type_words worded found name type)

theorem dissects_collection_constant {name : String} (word : IsWord name) (collection : String) :
    Dissects (collectionConstantBlock name collection) (collectionConstantBlock name "")
      [collection] := by
  unfold collectionConstantBlock
  simp only [String.append_assoc, -String.reduceAppend]
  apply dissects_code (by decide)
  apply dissects_text (unquoted_append (unquoted_of_word word) (by decide))
  exact dissects_code (by decide) (dissects_literal_last collection)

end Record

namespace Enumeration

def emptied (enumeration : Enumeration) : Enumeration :=
  ⟨enumeration.name, enumeration.constants.map fun constant => (constant.1, "")⟩

theorem dissects_constants {name : String} (word : IsWord name)
    {constants : List (String × String)} (words : ∀ constant ∈ constants, IsWord constant.1) :
    Dissects (String.join (constants.map (constantText name)) ++ ")")
      (String.join ((constants.map fun constant => (constant.1, "")).map (constantText name)) ++
        ")") (constants.map Prod.snd) := by
  induction constants with
  | nil => exact dissects_last (by decide)
  | cons constant constants induction =>
      obtain ⟨own, others⟩ := List.forall_mem_cons.mp words
      simp only [List.map_cons, String.join_cons, constantText, String.append_assoc,
        -String.reduceAppend]
      apply dissects_code (by decide)
      apply dissects_text (unquoted_of_word own)
      apply dissects_code (by decide)
      apply dissects_text (unquoted_of_word word)
      apply dissects_code (by decide)
      apply dissects_literal constant.2
      exact dissects_code (by decide) (induction others)

theorem dissects_write {enumeration : Enumeration} (word : IsWord enumeration.name)
    (words : ∀ constant ∈ enumeration.constants, IsWord constant.1) :
    Dissects enumeration.write enumeration.emptied.write (enumeration.constants.map Prod.snd) := by
  obtain ⟨name, constants⟩ := enumeration
  cases constants with
  | nil =>
      simp only [write, emptied, List.map_nil, String.append_assoc, -String.reduceAppend]
      apply dissects_code (by decide)
      exact dissects_text (unquoted_of_word word) (dissects_last (by decide))
  | cons constant constants =>
      have body := dissects_constants word words
      simp only [write, emptied, String.append_assoc, -String.reduceAppend]
      apply dissects_code (by decide)
      apply dissects_text (unquoted_of_word word)
      apply dissects_code (by decide)
      exact dissects_code (by decide) body

theorem dissects_of_property {symbols : Symbols} (worded : symbols.Worded) (property : Property) :
    Dissects (ofProperty symbols property).write (ofProperty symbols property).emptied.write
      property.options := by
  have word : IsWord (ofProperty symbols property).name := worded.enums property
  have values : (ofProperty symbols property).constants.map Prod.snd = property.options :=
    List.map_snd_zip (constant_names_length _ _).ge
  have parts := dissects_write word fun constant inside =>
    constant_names_are_words word property.options constant.1 (List.of_mem_zip inside).1
  rwa [values] at parts

end Enumeration

end CollectionTypes.Go
