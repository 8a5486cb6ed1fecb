import CollectionTypes.Proofs.Go.Packages

/-!
The packages that the declarations of one model use. A date brings in the types of the server,
whatever the style and whether it is optional or an array; a record type is written over the records
of the server and over its queries, with or without fields. No other package is named.
-/

namespace CollectionTypes

open Naming Text

def Model.HasDate (model : Model) : Prop := ∃ property ∈ model.properties, property.kind = .date

namespace Go

def datePackages (property : Property) : List String :=
  if property.kind = .date then ["types"] else []

theorem mem_date_packages {property : Property} {package : String} :
    package ∈ datePackages property ↔ package = "types" ∧ property.kind = .date := by
  unfold datePackages
  split <;> simp [*]

/-- The packages that the values of a model bring in. -/
theorem date_packages_of_model {model : Model} {package : String} :
    package ∈ model.properties.flatMap datePackages ↔ package = "types" ∧ model.HasDate := by
  simp only [List.mem_flatMap, mem_date_packages]
  constructor
  · rintro ⟨property, member, types, kind⟩
    exact ⟨types, property, member, kind⟩
  · rintro ⟨types, property, member, kind⟩
    exact ⟨property, member, types, kind⟩

section Types

variable {symbols : Symbols} (worded : symbols.Worded)

theorem named_packages {name : String} (word : IsWord name) :
    (TypeExpr.named name).packages = [] := by
  simp [TypeExpr.packages, TypeExpr.leaf?, package_of_word word]

include worded

theorem resolved_type_packages (property : Property) :
    (resolvedType symbols property).packages = [] := by
  unfold resolvedType
  split
  · exact named_packages (worded.types _)
  · rfl

theorem expand_type_packages (property : Property) :
    (expandType symbols property).packages = [] := by
  rw [TypeExpr.packages, leaf_of_expand_type]
  exact resolved_type_packages worded property

theorem type_of_packages (style : Style) (property : Property) :
    (typeOf style symbols property).packages = datePackages property := by
  rw [TypeExpr.packages, leaf_of_type_of]
  unfold elementType datePackages
  cases property.kind with
  | enumeration => exact named_packages (worded.enums property)
  | relation =>
      dsimp only
      split
      · rfl
      · exact resolved_type_packages worded property
  | date | text | file | number | boolean | json => rfl

theorem value_type_packages (property : Property) :
    (valueType symbols property).packages = datePackages property := by
  have element (type : TypeExpr) :
      (if property.array then TypeExpr.slice type else type).packages = type.packages := by
    split <;> rfl
  simp only [valueType, element]
  unfold datePackages
  cases property.kind with
  | enumeration => exact named_packages (worded.enums property)
  | date | text | file | number | boolean | json | relation => rfl

theorem expansion_packages (property : Property) :
    ∀ package ∈ (Expansion.ofProperty symbols property).type.packages, package = "core" := by
  have typed {type : TypeExpr} (none : type.packages = []) :
      ∀ package ∈ type.packages, package = "core" := by
    rw [none]
    exact fun package member => absurd member (List.not_mem_nil)
  unfold Expansion.ofProperty
  split
  · exact typed (named_packages (worded.types _))
  · exact typed (named_packages (worded.types _))
  · decide
  · decide

/-- A method brings in what its property does; loading records takes an application. -/
theorem method_packages {property : Property} {method : Method}
    (found : Record.MethodOf symbols property method) :
    ∀ package ∈ method.packages, package = "core" ∨ package ∈ datePackages property := by
  intro package member
  cases found with
  | getter word | setter word _ =>
      rw [Method.packages, value_type_packages worded] at member
      exact Or.inr member
  | integerGetter word number => contradiction
  | expander word relation =>
      rcases List.mem_cons.mp member with application | record
      · exact Or.inl application
      · exact Or.inl (expansion_packages worded property package record)

end Types

namespace Enumeration

theorem uses_of_property {symbols : Symbols} (worded : symbols.Worded) (property : Property) :
    Uses [] (ofProperty symbols property).write := by
  have word := worded.enums property
  refine uses_enumeration word fun constant member => ?_
  exact constant_names_are_words word property.options _ (List.of_mem_zip member).1

/-- The enumerations of a model name no packages. -/
theorem no_packages {symbols : Symbols} (worded : symbols.Worded) (properties : List Property)
    (package : String) : package ∉
      (properties.map fun property => (ofProperty symbols property).write).flatMap packages := by
  intro found
  obtain ⟨text, member, used⟩ := List.mem_flatMap.mp found
  obtain ⟨property, _, rfl⟩ := List.mem_map.mp member
  rw [uses_of_property worded property] at used
  contradiction

end Enumeration

def StructField.Known (field : StructField) : Prop := IsWord field.name ∧ field.type.Known

theorem uses_field {field : StructField} (known : field.Known)
    (unbroken : '\x60' ∉ field.key.toList) {used : List String} {rest : String}
    (tail : Uses used rest) :
    Uses (field.type.packages ++ used) ("\t" ++ field.write ++ "\n" ++ rest) := by
  unfold StructField.write
  simp only [String.append_assoc, -String.reduceAppend]
  apply uses_plain (by decide)
  refine uses_word_before known.1 (opens_stock (by decide)) (uses_plain (by decide) ?_)
  refine uses_type known.2 (Or.inr (opens_stock (by decide))) (uses_plain (by decide) ?_)
  exact uses_tag unbroken _ (uses_plain (by decide) tail)

namespace Struct

def typePackages (struct : Struct) : List String :=
  (struct.fields.map (·.type)).flatMap TypeExpr.packages

def Known (struct : Struct) : Prop := IsWord struct.name ∧ ∀ field ∈ struct.fields, field.Known

/-- No key ends the raw string that it stands in. -/
def Unbroken (struct : Struct) : Prop := ∀ field ∈ struct.fields, '\x60' ∉ field.key.toList

theorem uses_write {struct : Struct} (known : struct.Known) (unbroken : struct.Unbroken) :
    Uses struct.typePackages struct.write := by
  have lines (fields : List StructField) (each : ∀ field ∈ fields, field.Known)
      (whole : ∀ field ∈ fields, '\x60' ∉ field.key.toList) :
      Uses ((fields.map (·.type)).flatMap TypeExpr.packages)
        (String.join (fields.map fun field => "\t" ++ field.write ++ "\n") ++ "\x7d") := by
    induction fields with
    | nil => exact uses_last (by decide)
    | cons field fields induction =>
        obtain ⟨own, others⟩ := List.forall_mem_cons.mp each
        obtain ⟨ownWhole, othersWhole⟩ := List.forall_mem_cons.mp whole
        rw [List.map_cons, List.map_cons, String.join_cons, String.append_assoc]
        exact uses_field own ownWhole (induction others othersWhole)
  unfold write
  simp only [String.append_assoc, -String.reduceAppend]
  apply uses_plain (by decide)
  apply uses_word known.1 (by decide)
  simpa only [String.append_assoc, typePackages] using lines struct.fields known.2 unbroken

/-- Fields that are told apart stay known. -/
theorem distinguish_known {fields : List StructField} (known : ∀ field ∈ fields, field.Known) :
    ∀ field ∈ distinguish fields, field.Known := by
  intro field member
  simp only [distinguish, ← List.map_uncurry_zip_eq_zipWith] at member
  obtain ⟨⟨name, original⟩, paired, rfl⟩ := List.mem_map.mp member
  obtain ⟨claimed, inFields⟩ := List.of_mem_zip paired
  have unique : name ∈ uniqueNames id (fields.map (·.name)) := by
    rwa [uniqueNames, List.map_id]
  obtain ⟨stem, stemMember, suffix, rfl⟩ := unique_names_are_candidates _ _ name unique
  obtain ⟨wanted, wantedMember, rfl⟩ := List.mem_map.mp stemMember
  exact ⟨candidate_is_word (known wanted wantedMember).1 suffix, (known original inFields).2⟩

def all (style : Style) (symbols : Symbols) (model : Model) : List Struct :=
  ofModel style symbols model :: if model.hasRelations then [expansionOf symbols model] else []

/-- The blocks of a model are its enumerations and its structs. -/
theorem blocks_of_all (style : Style) (symbols : Symbols) (model : Model) :
    blocks style symbols model =
      model.distinctEnums.map (fun property => (Enumeration.ofProperty symbols property).write) ++
        (all style symbols model).map (·.write) := by
  rw [blocks, all, List.append_assoc]
  split <;> rfl

/-- Beside the types of the properties there may be that of the expansion. -/
theorem types_of_model (style : Style) (symbols : Symbols) (model : Model) :
    (ofModel style symbols model).fields.map (·.type) =
      model.properties.map (typeOf style symbols) ++
        if hasExpandField model then [(expandFieldOf symbols model).type] else [] := by
  rw [ofModel, distinguish_types, List.map_append, List.map_map]
  split <;> rfl

/-- The keys of a model are the names of its fields, and that of the expansion. -/
theorem keys_of_model (style : Style) (symbols : Symbols) (model : Model) :
    (ofModel style symbols model).fields.map (·.key) =
      model.properties.map (·.name) ++ if hasExpandField model then [expandKey] else [] := by
  rw [ofModel, distinguish_view (·.key) (fun _ _ => rfl), List.map_append, List.map_map]
  split <;> rfl

theorem keys_of_expansion (symbols : Symbols) (model : Model) :
    (expansionOf symbols model).fields.map (·.key) = model.relations.map (·.name) := by
  rw [expansionOf, distinguish_view (·.key) (fun _ _ => rfl), List.map_map]
  rfl

/-- What holds of the names of all fields, and of the key of the expansion, holds of all keys. -/
theorem forall_keys_iff {style : Style} {symbols : Symbols} {model : Model} (Good : String → Prop)
    (expand : Good expandKey) :
    (∀ struct ∈ all style symbols model, ∀ field ∈ struct.fields, Good field.key) ↔
      ∀ property ∈ model.properties, Good property.name := by
  have own : (∀ field ∈ (ofModel style symbols model).fields, Good field.key) ↔
      ∀ property ∈ model.properties, Good property.name := by
    have keys := List.forall_mem_map (f := (·.key)) (P := Good)
      (l := (ofModel style symbols model).fields)
    rw [← keys, keys_of_model, List.forall_mem_append, List.forall_mem_map]
    refine and_iff_left ?_
    split
    · exact List.forall_mem_singleton.mpr expand
    · simp
  have expansion (names : ∀ property ∈ model.properties, Good property.name) :
      ∀ field ∈ (expansionOf symbols model).fields, Good field.key := by
    have keys := List.forall_mem_map (f := (·.key)) (P := Good)
      (l := (expansionOf symbols model).fields)
    rw [← keys, keys_of_expansion, List.forall_mem_map]
    exact fun property member => names property (List.mem_of_mem_filter member)
  rw [all, List.forall_mem_cons, own]
  refine and_iff_left_of_imp fun names => ?_
  split
  · exact List.forall_mem_singleton.mpr (expansion names)
  · simp

theorem unbroken_of_names {style : Style} {symbols : Symbols} {model : Model}
    (names : ∀ property ∈ model.properties, '\x60' ∉ property.name.toList) :
    ∀ struct ∈ all style symbols model, struct.Unbroken :=
  (forall_keys_iff (fun key => '\x60' ∉ key.toList) (by decide)).mpr names

theorem types_of_expansion (symbols : Symbols) (model : Model) :
    (expansionOf symbols model).fields.map (·.type) =
      model.relations.map (expandType symbols) := by
  rw [expansionOf, distinguish_types, List.map_map]
  rfl

section Models

variable {symbols : Symbols} (worded : symbols.Worded) (style : Style) (model : Model)

include worded

theorem expand_name_is_word : IsWord (symbols.expandName model.name) :=
  is_word_append (worded.types model.name) (literal_is_word (by decide))

theorem of_model_known : (ofModel style symbols model).Known := by
  refine ⟨worded.types model.name, distinguish_known ?_⟩
  rw [List.forall_mem_append]
  constructor
  · intro field member
    obtain ⟨property, _, rfl⟩ := List.mem_map.mp member
    have names := element_type_names style symbols property
    rw [← leaf_of_type_of] at names
    exact ⟨exported_name_is_word property.name, known_of_referenced worded names⟩
  · split
    · rw [List.forall_mem_singleton]
      refine ⟨literal_is_word (by decide), fun name leaf => Or.inr ?_⟩
      rw [← Option.some.inj leaf]
      exact expand_name_is_word worded model
    · simp

theorem expansion_known : (expansionOf symbols model).Known := by
  refine ⟨expand_name_is_word worded model, distinguish_known fun field member => ?_⟩
  obtain ⟨property, isRelation, rfl⟩ := List.mem_map.mp member
  have relation : property.isRelation = true := (List.mem_filter.mp isRelation).2
  have names := resolved_type_names symbols relation
  rw [← leaf_of_expand_type] at names
  exact ⟨exported_name_is_word property.name,
    known_of_referenced worded fun name leaf => Or.inr (names name leaf)⟩

theorem all_known : ∀ struct ∈ all style symbols model, struct.Known := by
  rw [all, List.forall_mem_cons]
  refine ⟨of_model_known worded style model, ?_⟩
  split
  · rw [List.forall_mem_singleton]
    exact expansion_known worded model
  · simp

theorem model_type_packages : (ofModel style symbols model).typePackages =
    model.properties.flatMap datePackages := by
  have expand : (expandFieldOf symbols model).type.packages = [] :=
    named_packages (expand_name_is_word worded model)
  have own : model.properties.flatMap (fun property => (typeOf style symbols property).packages) =
      model.properties.flatMap datePackages :=
    List.flatMap_congr fun property _ => type_of_packages worded style property
  rw [typePackages, types_of_model, List.flatMap_append, List.flatMap_map, own]
  split
  · rw [List.flatMap_singleton, expand, List.append_nil]
  · rw [List.flatMap_nil, List.append_nil]

theorem expansion_type_packages : (expansionOf symbols model).typePackages = [] := by
  rw [typePackages, types_of_expansion, List.flatMap_map, List.flatMap_eq_nil_iff]
  exact fun property _ => expand_type_packages worded property

theorem all_type_packages {package : String} :
    package ∈ (all style symbols model).flatMap typePackages ↔
      package = "types" ∧ model.HasDate := by
  rw [all, List.flatMap_cons, model_type_packages worded, List.mem_append, date_packages_of_model]
  split
  · simp [expansion_type_packages worded]
  · simp

/-- The structs of a model name one package, and only for a date. -/
theorem packages_of_all (unbroken : ∀ struct ∈ all style symbols model, struct.Unbroken)
    {package : String} :
    package ∈ ((all style symbols model).map (·.write)).flatMap packages ↔
      package = "types" ∧ model.HasDate := by
  have each : (all style symbols model).flatMap (fun struct => packages struct.write) =
      (all style symbols model).flatMap typePackages :=
    List.flatMap_congr fun struct member =>
      uses_write (all_known worded style model struct member) (unbroken struct member)
  rw [List.flatMap_map, each, all_type_packages worded]

end Models

end Struct

namespace Record

theorem getter_of_property (symbols : Symbols) {properties : List Property} {property : Property}
    (member : property ∈ properties) (space : Namespace) :
    ∃ name, Method.getter name property.name (valueType symbols property)
      (.ofProperty symbols property) ∈ allMethods symbols space properties := by
  induction properties generalizing space with
  | nil => contradiction
  | cons first properties induction =>
      rw [allMethods]
      rcases List.mem_cons.mp member with rfl | later
      · have own : Method.getter (space.claim (exportedName property.name)).1 property.name
            (valueType symbols property) (.ofProperty symbols property) ∈
              (methodsOf symbols space property).1 := by simp [methodsOf]
        exact ⟨_, List.mem_append_left _ own⟩
      · obtain ⟨name, found⟩ := induction later (methodsOf symbols space first).2
        exact ⟨name, List.mem_append_right _ found⟩

theorem packages_of_functions {name : String} (word : IsWord name) :
    (functionBlocks name).flatMap packages = functionPackages.flatten := by
  have each : (functionBlocks name).map packages = functionPackages := by
    rw [← List.forall₂_eq_eq_eq, List.forall₂_map_left_iff]
    exact (uses_function_blocks word).flip
  rw [List.flatMap_def, each]

section Models

variable {symbols : Symbols} (worded : symbols.Worded) (model : Model)

include worded

theorem packages_of_methods {package : String} (used : package ∈
      ((methods symbols model).map (·.write (symbols.typeName model.name))).flatMap packages) :
    package = "core" ∨ package = "types" ∧ model.HasDate := by
  obtain ⟨text, member, named⟩ := List.mem_flatMap.mp used
  obtain ⟨method, isMethod, rfl⟩ := List.mem_map.mp member
  obtain ⟨property, inModel, found⟩ := method_of_all_methods isMethod
  rw [uses_method worded found (worded.types model.name)] at named
  refine (method_packages worded found package named).imp_right fun date => ?_
  obtain ⟨types, kind⟩ := mem_date_packages.mp date
  exact ⟨types, property, inModel, kind⟩

theorem date_used_by_methods (date : model.HasDate) : "types" ∈
    ((methods symbols model).map (·.write (symbols.typeName model.name))).flatMap packages := by
  obtain ⟨property, inModel, kind⟩ := date
  obtain ⟨name, isMethod⟩ := getter_of_property symbols inModel ⟨proxyMembers⟩
  obtain ⟨_, _, found⟩ := method_of_all_methods isMethod
  refine List.mem_flatMap.mpr ⟨_, List.mem_map_of_mem isMethod, ?_⟩
  rw [uses_method worded found (worded.types model.name), Method.packages,
    value_type_packages worded]
  exact mem_date_packages.mpr ⟨rfl, kind⟩

/-- A record type names the records of the server and its queries, and one package for a date. -/
theorem packages_of_blocks {package : String} :
    package ∈ (blocks symbols model).flatMap packages ↔
      package = "core" ∨ package = "dbx" ∨ package = "types" ∧ model.HasDate := by
  have word := worded.types model.name
  have functions : package ∈ functionPackages.flatten ↔ package = "core" ∨ package = "dbx" := by
    simp [functionPackages]
  have enumerations := Enumeration.no_packages worded model.distinctEnums package
  have constant := uses_collection_constant word model.name
  have type := uses_type_block word
  rw [Uses] at constant type
  simp only [blocks, List.flatMap_append, List.mem_append, List.flatMap_cons, List.flatMap_nil,
    packages_of_functions word, functions, enumerations, constant, type, List.not_mem_nil,
    List.mem_singleton, false_or, or_false]
  constructor
  · rintro ((core | methods) | core | queries)
    · exact Or.inl core
    · exact (packages_of_methods worded model methods).imp_right Or.inr
    · exact Or.inl core
    · exact Or.inr (Or.inl queries)
  · rintro (core | queries | ⟨rfl, date⟩)
    · exact Or.inr (Or.inl core)
    · exact Or.inr (Or.inr queries)
    · exact Or.inl (Or.inr (date_used_by_methods worded model date))

end Models

end Record

end Go

end CollectionTypes
