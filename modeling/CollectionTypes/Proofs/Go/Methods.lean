import CollectionTypes.Proofs.Generator.Symbols
import CollectionTypes.Proofs.Go.Vocabulary

/-!
The methods of a record type. Their names come out of one namespace, property after property, so
that no two of them are the same and none is a name that was reserved; what the bodies of a record
type select on the wrapped record is among the reserved names. Names of parameters and local
variables are no part of this: they hide no method.
-/

namespace CollectionTypes.Go

open Naming Text

namespace Record

theorem claim_if_handed_out (wanted : Bool) (space : Namespace) (stem : String) :
    Namespace.HandedOut space (claimIf wanted space stem).2
      (claimIf wanted space stem).1.toList := by
  cases wanted with
  | false => exact Namespace.handed_out_none space
  | true => exact Namespace.claim_handed_out space stem

theorem claim_is_word (space : Namespace) {stem : String} (word : IsWord stem) :
    IsWord (space.claim stem).1 := by
  obtain ⟨suffix, _, claimed⟩ := Namespace.claim_spec space stem
  rw [claimed]
  exact candidate_is_word word suffix

theorem claim_if_cases {wanted : Bool} {space : Namespace} {stem name : String}
    (word : IsWord stem) (claimed : (claimIf wanted space stem).1 = some name) :
    wanted = true ∧ IsWord name := by
  cases wanted with
  | false => exact absurd claimed (by simp [claimIf])
  | true =>
      have same : (space.claim stem).1 = name := Option.some.inj claimed
      exact ⟨rfl, same ▸ claim_is_word space word⟩

inductive MethodOf (symbols : Symbols) (property : Property) : Method → Prop where
  | getter {name : String} (word : IsWord name) :
      MethodOf symbols property (.getter name property.name (valueType symbols property)
        (.ofProperty symbols property))
  | integerGetter {name : String} (word : IsWord name)
      (number : hasIntegerGetter property = true) :
      MethodOf symbols property (.integerGetter name property.name)
  | setter {name : String} (word : IsWord name) (writable : isReadOnly property = false) :
      MethodOf symbols property (.setter name property.name
        (parameterName property.name locals) (valueType symbols property) (.ofProperty property))
  | expander {name : String} (word : IsWord name) (relation : property.isRelation = true) :
      MethodOf symbols property (.expander name property.name (.ofProperty symbols property))

theorem MethodOf.word {symbols : Symbols} {property : Property} {method : Method}
    (found : MethodOf symbols property method) : IsWord method.name := by
  cases found with
  | getter word | integerGetter word _ | setter word _ | expander word _ => exact word

theorem method_of_methods_of {symbols : Symbols} {space : Namespace} {property : Property}
    {method : Method} (member : method ∈ (methodsOf symbols space property).1) :
    MethodOf symbols property method := by
  have getterWord := claim_is_word space (exported_name_is_word property.name)
  simp only [methodsOf, List.mem_append, List.mem_singleton, Option.mem_toList,
    Option.map_eq_some_iff] at member
  rcases member with ((rfl | ⟨name, found, rfl⟩) | ⟨name, found, rfl⟩) | ⟨name, found, rfl⟩
  · exact .getter getterWord
  · obtain ⟨number, word⟩ := claim_if_cases
      (is_word_append getterWord (literal_is_word (by decide))) found
    exact .integerGetter word number
  · have stem : IsWord ("Set" ++ (space.claim (exportedName property.name)).1) :=
      is_word_append (literal_is_word (by decide)) getterWord
    obtain ⟨writable, word⟩ := claim_if_cases stem found
    exact .setter word (by simpa using writable)
  · have stem : IsWord ("Expand" ++ (space.claim (exportedName property.name)).1) :=
      is_word_append (literal_is_word (by decide)) getterWord
    obtain ⟨relation, word⟩ := claim_if_cases stem found
    exact .expander word relation

theorem mem_all_methods {symbols : Symbols} {space : Namespace} {properties : List Property}
    {method : Method} (member : method ∈ allMethods symbols space properties) :
    ∃ property ∈ properties, ∃ before, method ∈ (methodsOf symbols before property).1 := by
  induction properties generalizing space with
  | nil => contradiction
  | cons property properties induction =>
      rw [allMethods] at member
      rcases List.mem_append.mp member with own | later
      · exact ⟨property, List.mem_cons_self .., space, own⟩
      · obtain ⟨other, otherMember, found⟩ := induction later
        exact ⟨other, List.mem_cons_of_mem _ otherMember, found⟩

theorem method_of_all_methods {symbols : Symbols} {space : Namespace}
    {properties : List Property} {method : Method}
    (member : method ∈ allMethods symbols space properties) :
    ∃ property ∈ properties, MethodOf symbols property method := by
  obtain ⟨property, inProperties, before, own⟩ := mem_all_methods member
  exact ⟨property, inProperties, method_of_methods_of own⟩

theorem value_type_names (symbols : Symbols) (property : Property) :
    ∀ name ∈ (valueType symbols property).leaf?,
      name ∈ vocabulary ∨ name ∈ symbols.referenced .goRecord property := by
  intro name member
  have element (type : TypeExpr) :
      (if property.array then TypeExpr.slice type else type).leaf? = type.leaf? := by
    split <;> rfl
  simp only [valueType, element] at member
  cases kind : property.kind with
  | enumeration =>
      rw [kind] at member
      have same : symbols.enumName property = name := Option.some.inj member
      right
      simp [Symbols.referenced, kind, same]
  | json =>
      rw [kind] at member
      contradiction
  | number | boolean | date | text | file | relation =>
      rw [kind] at member
      left
      rw [← Option.some.inj member]
      decide

theorem reading_names (symbols : Symbols) (property : Property) :
    ∀ name ∈ (Reading.ofProperty symbols property).typeName?,
      name ∈ symbols.referenced .goRecord property := by
  intro name member
  unfold Reading.ofProperty at member
  split at member
  case h_2 kind _ | h_3 kind _ =>
    have same : symbols.enumName property = name := Option.some.inj member
    simp [Symbols.referenced, kind, same]
  all_goals contradiction

theorem expansion_names (symbols : Symbols) {property : Property}
    (relation : property.isRelation = true) :
    ∀ name ∈ (Expansion.ofProperty symbols property).type.leaf?.toList ++
        (Expansion.ofProperty symbols property).typeNames,
      name ∈ vocabulary ∨ name ∈ symbols.referenced .goRecord property := by
  have kind : property.kind = .relation := eq_of_beq relation
  intro name member
  cases target : property.relationTarget? with
  | none =>
      have record : name = "core.Record" := by
        cases array : property.array <;>
          simpa [Expansion.ofProperty, target, array, Expansion.type, Expansion.typeNames,
            Expansion.typeName?, Expansion.recordType, TypeExpr.leaf?] using member
      left
      rw [record]
      decide
  | some collection =>
      have named : name = symbols.typeName collection ∨
          name = Target.wrapName (symbols.typeName collection) := by
        cases array : property.array <;>
          simpa [Expansion.ofProperty, target, array, Expansion.type, Expansion.typeNames,
            Expansion.typeName?, TypeExpr.leaf?] using member
      right
      simpa [Symbols.referenced, kind, target] using named

/-- A method names what its property refers to, and nothing else. -/
theorem method_of_type_names {symbols : Symbols} {property : Property} {method : Method}
    (found : MethodOf symbols property method) :
    ∀ name ∈ method.typeNames, name ∈ vocabulary ∨
      name ∈ symbols.referenced .goRecord property := by
  intro name member
  cases found with
  | getter word =>
      rcases List.mem_append.mp member with result | reading
      · exact value_type_names symbols property name (Option.mem_toList.mp result)
      · exact Or.inr (reading_names symbols property name (Option.mem_toList.mp reading))
  | integerGetter word number => contradiction
  | setter word writable =>
      exact value_type_names symbols property name (Option.mem_toList.mp member)
  | expander word relation => exact expansion_names symbols relation name member

theorem method_of_parameters {symbols : Symbols} {property : Property} {method : Method}
    (found : MethodOf symbols property method) : ∀ name ∈ method.parameters, IsWord name := by
  intro name member
  cases found with
  | setter word writable =>
      rw [List.mem_singleton.mp member]
      exact parameter_name_is_word _ _
  | getter word | integerGetter word _ | expander word _ => contradiction

/-- The types and functions that a method names are words, or of the vocabulary. -/
theorem method_of_type_words {symbols : Symbols} (worded : symbols.Worded) {property : Property}
    {method : Method} (found : MethodOf symbols property method) :
    ∀ name ∈ method.typeNames, name ∈ vocabulary ∨ IsWord name :=
  fun name member => (method_of_type_names found name member).imp_right
    (Symbols.referenced_are_words worded .goRecord property name)

/-- The names of one field's methods are those that its claims took. -/
theorem methods_of_handed_out (symbols : Symbols) (space : Namespace) (property : Property) :
    Namespace.HandedOut space (methodsOf symbols space property).2
      ((methodsOf symbols space property).1.map (·.name)) := by
  have getter := Namespace.claim_handed_out space (exportedName property.name)
  have integer := getter.append (claim_if_handed_out (hasIntegerGetter property) _
    ((space.claim (exportedName property.name)).1 ++ "Int"))
  have setter := integer.append (claim_if_handed_out (!isReadOnly property) _
    ("Set" ++ (space.claim (exportedName property.name)).1))
  have expander := setter.append (claim_if_handed_out property.isRelation _
    ("Expand" ++ (space.claim (exportedName property.name)).1))
  have same (names : Option String) (make : String → Method)
      (keeps : ∀ name, (make name).name = name) :
      (names.map make).toList.map (·.name) = names.toList := by
    cases names with
    | none => rfl
    | some name => simp [keeps]
  simp only [methodsOf, List.map_append, List.map_cons, List.map_nil]
  rw [same _ _ fun name => rfl, same _ _ fun name => rfl, same _ _ fun name => rfl]
  exact expander

theorem all_methods_handed_out (symbols : Symbols) (space : Namespace)
    (properties : List Property) :
    ∃ last, Namespace.HandedOut space last
      ((allMethods symbols space properties).map (·.name)) := by
  induction properties generalizing space with
  | nil => exact ⟨space, Namespace.handed_out_none space⟩
  | cons property properties induction =>
      obtain ⟨last, rest⟩ := induction (methodsOf symbols space property).2
      refine ⟨last, ?_⟩
      rw [allMethods, List.map_append]
      exact (methods_of_handed_out symbols space property).append rest

/-- The variables that hold the wrapper in a method, and in the function that makes one. -/
def wrapperVariables : List String := ["p", "result"]

def selectedMembers : List String := [
    "Record", "Set", "SetProxyRecord", "GetString", "GetStringSlice", "GetFloat", "GetInt",
    "GetBool", "GetDateTime", "UnmarshalJSONField", "ExpandedOne", "ExpandedAll"
  ]

def bodies (symbols : Symbols) (model : Model) : List String :=
  (methods symbols model).map (·.write (symbols.typeName model.name)) ++
    functionBlocks (symbols.typeName model.name)

theorem bodies_rendered (symbols : Symbols) (model : Model) :
    ∀ block ∈ bodies symbols model, block ∈ blocks symbols model := by
  intro block member
  rcases List.mem_append.mp member with method | function
  · exact List.mem_append_left _ (List.mem_append_right _ method)
  · exact List.mem_append_right _ function

theorem vocabulary_selections : ∀ word ∈ vocabulary,
    ∀ member ∈ selectedOn wrapperVariables word, member ∈ selectedMembers := by
  decide +kernel

theorem selected_of_spelled {names : List String} {text : String} (spelled : Spelled names text)
    (words : ∀ name ∈ names, name ∈ vocabulary ∨ IsWord name) :
    ∀ member ∈ selected wrapperVariables text, member ∈ selectedMembers := by
  intro member found
  obtain ⟨word, read, selects⟩ := List.mem_flatMap.mp found
  have plain (isWord : IsWord word) : member ∈ selectedMembers := by
    rw [selected_on_word isWord] at selects
    contradiction
  rcases spelled word read with known | name
  · exact vocabulary_selections word known member selects
  · rcases words word name with known | isWord
    · exact vocabulary_selections word known member selects
    · exact plain isWord

theorem method_of_selections {symbols : Symbols} (worded : symbols.Worded) {property : Property}
    {method : Method} (found : MethodOf symbols property method) {receiver : String}
    (receiverWord : IsWord receiver) :
    ∀ member ∈ selected wrapperVariables (method.write receiver), member ∈ selectedMembers := by
  let names := receiver :: method.name :: (method.parameters ++ method.typeNames)
  have words : ∀ name ∈ names, name ∈ vocabulary ∨ IsWord name := by
    simp only [names, List.forall_mem_cons]
    refine ⟨Or.inr receiverWord, Or.inr found.word, ?_⟩
    intro name member
    rcases List.mem_append.mp member with parameter | type
    · exact Or.inr (method_of_parameters found name parameter)
    · exact method_of_type_words worded found name type
  have fits : ∀ name ∈ names, Fits names name := fun name member =>
    (words name member).imp_right fun word => ⟨word, member⟩
  have spelled : Spelled names (method.write receiver) :=
    Method.spelled_write (fits _ (by simp [names])) (fits _ (by simp [names]))
      (fun name member => fits name (by simp [names, member]))
      (fun name member => fits name (by simp [names, member]))
  exact selected_of_spelled spelled words

theorem function_block_selections {name : String} (word : IsWord name) :
    ∀ block ∈ functionBlocks name,
      ∀ member ∈ selected wrapperVariables block, member ∈ selectedMembers := by
  intro block member
  refine selected_of_spelled (spelled_function_blocks word block member) ?_
  exact fun declared inGroup => (declared_name_fits word declared inGroup).imp_right And.left

/-- No two methods of a record type have one name, and none has the name of a member that a body
selects on the wrapper; under symbols that are words, the written bodies select no other members. -/
theorem method_names_apart (symbols : Symbols) (model : Model) :
    ((methods symbols model).map (·.name)).Nodup ∧
      (∀ method ∈ methods symbols model, method.name ∉ selectedMembers) ∧
      (∀ block ∈ bodies symbols model, block ∈ blocks symbols model) ∧
      (symbols.Worded → ∀ block ∈ bodies symbols model,
        ∀ member ∈ selected wrapperVariables block, member ∈ selectedMembers) := by
  obtain ⟨last, handedOut⟩ := all_methods_handed_out symbols ⟨proxyMembers⟩ model.properties
  have reserved : ∀ member ∈ selectedMembers, member ∈ proxyMembers := by decide
  refine ⟨handedOut.distinct, ?_, bodies_rendered symbols model, ?_⟩
  · intro method member isSelected
    exact handedOut.fresh method.name (List.mem_map_of_mem member) (reserved _ isSelected)
  · intro worded block member
    rcases List.mem_append.mp member with isMethod | isFunction
    · obtain ⟨method, methodMember, rfl⟩ := List.mem_map.mp isMethod
      obtain ⟨property, _, found⟩ := method_of_all_methods methodMember
      exact method_of_selections worded found (worded.types model.name)
    · exact function_block_selections (worded.types model.name) block isFunction

def crossedModel : Model :=
  ⟨{ name := "posts" }, [
    { name := "name", owner := "posts", kind := .text, data := .plain },
    { name := "set_name", owner := "posts", kind := .text, data := .plain },
    { name := "views_int", owner := "posts", kind := .number, data := .plain },
    { name := "views", owner := "posts", kind := .number, data := .plain },
    { name := "get_string", owner := "posts", kind := .json, data := .plain },
    { name := "author", owner := "posts", kind := .relation,
      data := .relation (.resolved "authors") }]⟩

theorem method_names_apart_crossed :
    (Symbols.ofModels [crossedModel] .goRecord).Worded ∧
      ∀ block ∈ bodies (Symbols.ofModels [crossedModel] .goRecord) crossedModel,
        ∀ member ∈ selected wrapperVariables block, member ∈ selectedMembers :=
  have worded := Symbols.of_models_worded [crossedModel] .goRecord
  ⟨worded, (method_names_apart _ crossedModel).2.2.2 worded⟩

end Record

end CollectionTypes.Go
