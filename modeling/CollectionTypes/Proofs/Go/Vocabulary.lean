import CollectionTypes.Go.Record
import CollectionTypes.Proofs.Generator.Symbols
import CollectionTypes.Proofs.Text.Words

/-!
The words of which methods and functions of a record type are written: a fixed vocabulary of small
and of qualified names, and beside it only the names of types and functions that were put in and the
parameter of a setter. Texts of users stand in literals and are no words.
-/

namespace CollectionTypes.Go

open Naming Text

def selections : List String := [
    "p.Record", "p.Set", "p.GetString", "p.GetStringSlice", "p.GetFloat", "p.GetInt", "p.GetBool",
    "p.GetDateTime", "p.UnmarshalJSONField", "p.ExpandedOne", "p.ExpandedAll",
    "result.SetProxyRecord"
  ]

def vocabulary : List String := selections ++ [
    "func", "return", "var", "if", "for", "range", "make", "len", "nil", "string", "int", "float64",
    "bool", "map", "any", "error", "p", "app", "i", "id", "key", "value", "values", "record",
    "records", "result", "collection", "err", "errs", "filter", "sort", "limit", "offset",
    "params", "params...", "types.DateTime", "core.App", "core.Record", "core.NewRecord",
    "...dbx.Params", "app.ExpandRecord", "app.FindCachedCollectionByNameOrId",
    "app.FindRecordById", "app.FindFirstRecordByData", "app.FindRecordsByFilter"
  ]

theorem vocabulary_dotted : ∀ word ∈ vocabulary, word.toList.all isDottedLetter = true := by
  decide +kernel

/-- The name that a type is built of; a map of any values has none. -/
def TypeExpr.leaf? : TypeExpr → Option String
  | .named name => some name
  | .objectMap => none
  | .pointer target => target.leaf?
  | .slice element => element.leaf?

abbrev Spelled (names : List String) (text : String) : Prop := Within vocabulary names text

/-- What may stand as a name in a text that is spelled with some names. -/
def Fits (names : List String) (name : String) : Prop :=
  name ∈ vocabulary ∨ IsWord name ∧ name ∈ names

section Spelled

variable {names : List String} {letters : List Char} {rest : String}

theorem dotted_of_fits {name : String} (fits : Fits names name) :
    ∀ letter ∈ name.toList, isDottedLetter letter = true := by
  rcases fits with known | ⟨word, _⟩
  · exact List.all_eq_true.mp (vocabulary_dotted name known)
  · intro letter member
    simp [isDottedLetter, word.letters letter member]

theorem spelled_name {name : String} (fits : Fits names name)
    (stock : (isStock vocabulary letters && opensWithMark letters) = true)
    (tail : Spelled names rest) : Spelled names (name ++ (String.ofList letters ++ rest)) := by
  obtain ⟨known, mark⟩ := Bool.and_eq_true_iff.mp stock
  exact within_name (dotted_of_fits fits) (fits.imp_right And.right) (Or.inr (opens_stock mark))
    (within_stock known tail)

theorem spelled_name_last {name : String} (fits : Fits names name)
    (stock : (isStock vocabulary letters && opensWithMark letters) = true) :
    Spelled names (name ++ String.ofList letters) := by
  have whole : Spelled names (name ++ (String.ofList letters ++ "")) :=
    spelled_name fits stock within_empty
  rwa [String.append_empty] at whole

/-- Pointers and slices add no words to a type. -/
theorem spelled_type {type : TypeExpr} (fits : ∀ name ∈ type.leaf?, Fits names name)
    (stop : rest = "" ∨ opensWithMark rest.toList = true) (tail : Spelled names rest) :
    Spelled names (type.write ++ rest) := by
  induction type with
  | named name =>
      have leaf := fits name rfl
      exact within_name (dotted_of_fits leaf) (leaf.imp_right And.right) stop tail
  | objectMap =>
      have split : TypeExpr.objectMap.write = "map[string]" ++ "any" := by decide
      rw [split, String.append_assoc]
      apply within_stock (by decide)
      exact within_name (List.all_eq_true.mp (by decide)) (Or.inl (by decide)) stop tail
  | pointer target induction =>
      rw [TypeExpr.write, String.append_assoc]
      exact within_stock (by decide) (induction fits)
  | slice element induction =>
      rw [TypeExpr.write, String.append_assoc]
      exact within_stock (by decide) (induction fits)

theorem spelled_typed {type : TypeExpr} (fits : ∀ name ∈ type.leaf?, Fits names name)
    (stock : (isStock vocabulary letters && opensWithMark letters) = true)
    (tail : Spelled names rest) :
    Spelled names (type.write ++ (String.ofList letters ++ rest)) := by
  obtain ⟨known, mark⟩ := Bool.and_eq_true_iff.mp stock
  exact spelled_type fits (Or.inr (opens_stock mark)) (within_stock known tail)

end Spelled

namespace Reading

def typeName? : Reading → Option String
  | .enumSlice typeName | .enum typeName => some typeName
  | _ => none

theorem spelled_selected_body {names : List String} {selection : String}
    (known : selection ∈ vocabulary) (field : String) {rest : String}
    (tail : Spelled names rest) :
    Spelled names (selectedBody selection (Quoted.literal field) ++ rest) := by
  unfold selectedBody
  simp only [String.append_assoc, -String.reduceAppend]
  apply within_stock (by decide)
  apply spelled_name (Or.inl known) (by decide)
  apply within_literal field
  exact within_stock (by decide) tail

theorem spelled_body {names : List String} {reading : Reading}
    (fits : ∀ name ∈ reading.typeName?, Fits names name) (field : String) {rest : String}
    (tail : Spelled names rest) :
    Spelled names (reading.body (Quoted.literal field) ++ rest) := by
  cases reading with
  | decoded =>
      rw [body]
      unfold decodedBody
      simp only [String.append_assoc, -String.reduceAppend]
      apply within_stock (by decide)
      apply within_stock (by decide)
      apply within_literal field
      apply within_stock (by decide)
      apply within_stock (by decide)
      apply within_stock (by decide)
      exact within_stock (by decide) tail
  | enumSlice typeName =>
      have named := fits typeName rfl
      rw [body]
      unfold enumSliceBody
      simp only [String.append_assoc, -String.reduceAppend]
      apply within_stock (by decide)
      apply within_literal field
      apply within_stock (by decide)
      apply within_stock (by decide)
      apply spelled_name named (by decide)
      apply within_stock (by decide)
      apply within_stock (by decide)
      apply spelled_name named (by decide)
      apply within_stock (by decide)
      exact within_stock (by decide) tail
  | enum typeName =>
      rw [body]
      unfold enumBody
      simp only [String.append_assoc, -String.reduceAppend]
      apply within_stock (by decide)
      apply spelled_name (fits typeName rfl) (by decide)
      apply within_literal field
      exact within_stock (by decide) tail
  | float | boolean | dateTime | stringSlice | string =>
      exact spelled_selected_body (by decide) field tail

end Reading

namespace Writing

theorem spelled_body {names : List String} (writing : Writing) (field : String)
    {parameter : String} (fits : Fits names parameter) {rest : String}
    (tail : Spelled names rest) :
    Spelled names (writing.body (Quoted.literal field) parameter ++ rest) := by
  cases writing with
  | enumSlice =>
      rw [body]
      unfold enumSliceBody
      simp only [String.append_assoc, -String.reduceAppend]
      apply within_stock (by decide)
      apply spelled_name fits (by decide)
      apply within_stock (by decide)
      apply spelled_name fits (by decide)
      apply within_stock (by decide)
      apply within_stock (by decide)
      apply within_stock (by decide)
      apply within_literal field
      exact within_stock (by decide) tail
  | enum =>
      rw [body]
      unfold enumBody
      simp only [String.append_assoc, -String.reduceAppend]
      apply within_stock (by decide)
      apply within_literal field
      apply within_stock (by decide)
      exact spelled_name fits (by decide) tail
  | plain =>
      rw [body]
      unfold plainBody
      simp only [String.append_assoc, -String.reduceAppend]
      apply within_stock (by decide)
      apply within_literal field
      apply within_stock (by decide)
      exact spelled_name fits (by decide) tail

end Writing

namespace Expansion

def typeName? : Expansion → Option String
  | .many typeName | .one typeName => some typeName
  | .manyUntyped | .oneUntyped => none

def typeNames (expansion : Expansion) : List String :=
  match expansion.typeName? with
  | some typeName => [typeName, Target.wrapName typeName]
  | none => []

theorem spelled_body {names : List String} {expansion : Expansion}
    (fits : ∀ name ∈ expansion.typeNames, Fits names name) (field : String) {rest : String}
    (tail : Spelled names rest) :
    Spelled names (expansion.body (Quoted.literal field) ++ rest) := by
  have loaded {picked : String} (spelled : Spelled names picked) :
      Spelled names (load (Quoted.literal field) ++ picked) := by
    unfold load
    simp only [String.append_assoc, -String.reduceAppend]
    apply within_stock (by decide)
    apply within_literal field
    apply within_stock (by decide)
    apply within_stock (by decide)
    apply within_literal field
    apply within_stock (by decide)
    apply within_stock (by decide)
    exact within_stock (by decide) spelled
  rw [body, String.append_assoc]
  apply loaded
  cases expansion with
  | many typeName =>
      have named : Fits names typeName := fits _ (by simp [typeNames, typeName?])
      have wrapped : Fits names (Target.wrapName typeName) :=
        fits _ (by simp [typeNames, typeName?])
      rw [pick]
      unfold pickMany
      simp only [String.append_assoc, -String.reduceAppend]
      apply within_stock (by decide)
      apply within_literal field
      apply within_stock (by decide)
      apply within_stock (by decide)
      apply spelled_name named (by decide)
      apply within_stock (by decide)
      apply within_stock (by decide)
      apply spelled_name wrapped (by decide)
      apply within_stock (by decide)
      exact within_stock (by decide) tail
  | one typeName =>
      have wrapped : Fits names (Target.wrapName typeName) :=
        fits _ (by simp [typeNames, typeName?])
      rw [pick]
      unfold pickOne
      simp only [String.append_assoc, -String.reduceAppend]
      apply within_stock (by decide)
      apply within_literal field
      apply within_stock (by decide)
      apply within_stock (by decide)
      apply within_stock (by decide)
      apply within_stock (by decide)
      apply within_stock (by decide)
      apply spelled_name wrapped (by decide)
      exact tail
  | manyUntyped | oneUntyped =>
      rw [pick]
      unfold pickUntyped
      simp only [String.append_assoc, -String.reduceAppend]
      apply within_stock (by decide)
      apply spelled_name (Or.inl (by decide)) (by decide)
      apply within_literal field
      exact within_stock (by decide) tail

end Expansion

namespace Method

def parameters : Method → List String
  | .setter _ _ parameter _ _ => [parameter]
  | _ => []

def typeNames : Method → List String
  | .getter _ _ result reading => result.leaf?.toList ++ reading.typeName?.toList
  | .integerGetter _ _ => []
  | .setter _ _ _ type _ => type.leaf?.toList
  | .expander _ _ expansion => expansion.type.leaf?.toList ++ expansion.typeNames

theorem spelled_tail {allowed : List String} {method : Method}
    (bound : ∀ name ∈ method.parameters, Fits allowed name)
    (fits : ∀ name ∈ method.typeNames, Fits allowed name) : Spelled allowed method.tail := by
  cases method with
  | getter name field result reading =>
      have resultFits : ∀ name ∈ result.leaf?, Fits allowed name := fun name member =>
        fits name (List.mem_append_left _ (Option.mem_toList.mpr member))
      have readingFits : ∀ name ∈ reading.typeName?, Fits allowed name := fun name member =>
        fits name (List.mem_append_right _ (Option.mem_toList.mpr member))
      rw [tail]
      unfold getterTail
      simp only [String.append_assoc, -String.reduceAppend]
      apply within_stock (by decide)
      apply spelled_typed resultFits (by decide)
      exact Reading.spelled_body readingFits field (within_last (by decide))
  | integerGetter name field =>
      rw [tail]
      unfold integerTail
      simp only [String.append_assoc, -String.reduceAppend]
      apply within_stock (by decide)
      exact within_literal field (within_last (by decide))
  | setter name field parameter type writing =>
      have parameterFits : Fits allowed parameter := bound parameter (List.mem_singleton_self _)
      have typeFits : ∀ name ∈ type.leaf?, Fits allowed name := fun name member =>
        fits name (Option.mem_toList.mpr member)
      rw [tail]
      unfold setterTail
      simp only [String.append_assoc, -String.reduceAppend]
      apply within_stock (by decide)
      apply spelled_name parameterFits (by decide)
      apply spelled_typed typeFits (by decide)
      exact Writing.spelled_body writing field parameterFits (within_last (by decide))
  | expander name field expansion =>
      have typeFits : ∀ name ∈ expansion.type.leaf?, Fits allowed name := fun name member =>
        fits name (List.mem_append_left _ (Option.mem_toList.mpr member))
      have bodyFits : ∀ name ∈ expansion.typeNames, Fits allowed name := fun name member =>
        fits name (List.mem_append_right _ member)
      rw [tail]
      unfold expanderTail
      simp only [String.append_assoc, -String.reduceAppend]
      apply within_stock (by decide)
      apply spelled_typed typeFits (by decide)
      exact Expansion.spelled_body bodyFits field (within_last (by decide))

theorem tail_opens_with_mark (method : Method) : opensWithMark method.tail.toList = true := by
  cases method with
  | getter name field result reading =>
      rw [tail]
      unfold getterTail
      simp only [String.append_assoc, -String.reduceAppend]
      exact opens_stock (by decide)
  | integerGetter name field =>
      rw [tail]
      unfold integerTail
      simp only [String.append_assoc, -String.reduceAppend]
      exact opens_stock (by decide)
  | setter name field parameter type writing =>
      rw [tail]
      unfold setterTail
      simp only [String.append_assoc, -String.reduceAppend]
      exact opens_stock (by decide)
  | expander name field expansion =>
      rw [tail]
      unfold expanderTail
      simp only [String.append_assoc, -String.reduceAppend]
      exact opens_stock (by decide)

theorem spelled_write {allowed : List String} {receiver : String}
    (receiverFits : Fits allowed receiver) {method : Method} (own : Fits allowed method.name)
    (bound : ∀ name ∈ method.parameters, Fits allowed name)
    (fits : ∀ name ∈ method.typeNames, Fits allowed name) :
    Spelled allowed (method.write receiver) := by
  unfold write head
  simp only [String.append_assoc, -String.reduceAppend]
  apply within_stock (by decide)
  apply spelled_name receiverFits (by decide)
  exact within_name (dotted_of_fits own) (own.imp_right And.right)
    (Or.inr method.tail_opens_with_mark) (spelled_tail bound fits)

end Method

namespace Record

variable {name : String} (word : IsWord name)

include word

theorem declared_name_fits : ∀ declared ∈ Target.goRecord.collectionDeclarations name,
    Fits (Target.goRecord.collectionDeclarations name) declared := by
  intro declared member
  exact Or.inr ⟨Claimant.declarations_are_words word .goRecord declared member, member⟩

/-- The functions of a record type are spelled with the names of its own group. -/
theorem spelled_function_blocks : ∀ block ∈ functionBlocks name,
    Spelled (Target.goRecord.collectionDeclarations name) block := by
  have fits := declared_name_fits word
  simp only [Target.collectionDeclarations, List.forall_mem_cons] at fits
  obtain ⟨own, constant, wrap, new, findById, findFirst, findByFilter, _⟩ := fits
  have onError {rest : String}
      (tail : Spelled (Target.goRecord.collectionDeclarations name) rest) :
      Spelled (Target.goRecord.collectionDeclarations name) (returnOnError ++ rest) :=
    within_stock (by decide) tail
  simp only [functionBlocks, List.forall_mem_cons]
  refine ⟨?_, ?_, ?_, ?_, ?_, by simp⟩
  · unfold wrapFunction
    simp only [String.append_assoc, -String.reduceAppend]
    apply within_stock (by decide)
    apply spelled_name wrap (by decide)
    apply spelled_name own (by decide)
    apply within_stock (by decide)
    apply spelled_name own (by decide)
    apply within_stock (by decide)
    exact within_last (by decide)
  · unfold newFunction
    simp only [String.append_assoc, -String.reduceAppend]
    apply within_stock (by decide)
    apply spelled_name new (by decide)
    apply spelled_name own (by decide)
    apply within_stock (by decide)
    refine spelled_name constant (by decide) (onError ?_)
    exact within_stock (by decide) (spelled_name_last wrap (by decide))
  · unfold findByIdFunction
    simp only [String.append_assoc, -String.reduceAppend]
    apply within_stock (by decide)
    apply spelled_name findById (by decide)
    apply spelled_name own (by decide)
    apply within_stock (by decide)
    refine spelled_name constant (by decide) (onError ?_)
    exact within_stock (by decide) (spelled_name_last wrap (by decide))
  · unfold findFirstFunction
    simp only [String.append_assoc, -String.reduceAppend]
    apply within_stock (by decide)
    apply spelled_name findFirst (by decide)
    apply spelled_name own (by decide)
    apply within_stock (by decide)
    refine spelled_name constant (by decide) (onError ?_)
    exact within_stock (by decide) (spelled_name_last wrap (by decide))
  · unfold findByFilterFunction
    simp only [String.append_assoc, -String.reduceAppend]
    apply within_stock (by decide)
    apply spelled_name findByFilter (by decide)
    apply within_stock (by decide)
    apply spelled_name own (by decide)
    apply within_stock (by decide)
    refine spelled_name constant (by decide) (onError ?_)
    apply within_stock (by decide)
    apply spelled_name own (by decide)
    apply within_stock (by decide)
    apply within_stock (by decide)
    apply spelled_name wrap (by decide)
    apply within_stock (by decide)
    exact within_last (by decide)

end Record

end CollectionTypes.Go
