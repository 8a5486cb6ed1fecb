import CollectionTypes.Proofs.Generator.TypeSites
import CollectionTypes.Proofs.Go.Declarations
import CollectionTypes.Proofs.Go.Typing
import CollectionTypes.Proofs.Property.DistinctEnums

/-!
The methods of record types in the package of their file. What types and functions there are is read
off the text of the whole file. A getter hands out just the type that its result states, because an
interpreted property is an array only where its kind holds several values. All of this is for files
that declare none of the words of the bodies, as no exported name is one of them.
-/

namespace CollectionTypes

/-- An interpreted property is an array only where its kind holds several values. -/
theorem Interpretation.property_of_model {pool selected : List Collection}
    {options : InterpretOptions} {model : Model}
    (member : model ∈ (interpret pool options selected).models) {property : Property}
    (inModel : property ∈ model.properties) :
    property.owner = model.name ∧
      (property.array = true → property.kind.supportsMultiple = true) := by
  obtain ⟨collection, _, rfl⟩ := List.mem_map.mp member
  obtain ⟨field, _, rfl⟩ := List.mem_map.mp inModel
  refine ⟨rfl, ?_⟩
  intro array
  exact (Bool.and_eq_true_iff.mp array).1

namespace Go

open Naming

section Properties

variable (symbols : Symbols) (property : Property)

/-- A value is read as what its type says, but for arrays of numbers, booleans, dates and JSON. -/
theorem reading_type_iff :
    (Reading.ofProperty symbols property).type = valueType symbols property ↔
      (property.array = true →
        property.kind.supportsMultiple = true ∨ property.kind = .text) := by
  cases kind : property.kind <;> cases array : property.array <;>
    simp [Reading.ofProperty, Reading.type, valueType, Kind.supportsMultiple, kind, array,
      TypeExpr.float, TypeExpr.bool, TypeExpr.dateTime]

/-- An array of numbers would be read as one number. -/
example : let property : Property :=
      { name := "views", owner := "posts", kind := .number, array := true, data := .plain }
    (Reading.ofProperty {} property).type = .float ∧ valueType {} property = .slice .float := by
  decide

def expandedType : TypeExpr :=
  let record := match property.relationTarget? with
    | some target => .pointer (.named (symbols.typeName target))
    | none => Expansion.recordType
  if property.array then .slice record else record

theorem expansion_type_eq :
    (Expansion.ofProperty symbols property).type = expandedType symbols property := by
  unfold Expansion.ofProperty expandedType
  cases property.relationTarget? <;> cases property.array <;> rfl

theorem expansion_type_name :
    (Expansion.ofProperty symbols property).typeName? =
      property.relationTarget?.map symbols.typeName := by
  unfold Expansion.ofProperty
  cases property.relationTarget? <;> cases property.array <;> rfl

end Properties

section File

variable {library : Library} {models : List Model} {elsewhere : Declarations}

theorem Package.type_of_file {block : String}
    (member : block ∈ models.flatMap (Record.blocks (Symbols.ofModels models .goRecord)))
    {type : String × TypeKind} (declared : declaredType? block = some type) :
    type ∈ (ofModels library models elsewhere).declarations.types :=
  List.mem_append_left _ (List.mem_filterMap.mpr ⟨block, member, declared⟩)

theorem Package.has_type_of_member {package : Package} {name : String} {kind : TypeKind}
    (word : IsWord name) (member : (name, kind) ∈ package.declarations.types) :
    package.HasType name kind := by
  have found : (package.declarations.types.lookup name).isSome = true := by
    by_contra missing
    rw [Option.not_isSome_iff_eq_none, List.lookup_eq_none_iff] at missing
    simpa using missing (name, kind) member
  have declared : package.declares name = true := by
    rw [declares, List.contains_iff_mem, Declarations.names]
    exact List.mem_append_left _ (List.mem_append_left _
      (List.mem_map.mpr ⟨(name, kind), member, rfl⟩))
  refine ⟨?_, List.contains_iff_mem.mpr member, ?_⟩
  · rw [typeNamed?, meaning, List.lookup_nil]
    simp only [declared, found, if_true]
  · exact fun dot => absurd (word.letters '.' dot) (by decide)

theorem Package.record_type_of_model {model : Model} (member : model ∈ models) :
    (ofModels library models elsewhere).HasType
      ((Symbols.ofModels models .goRecord).typeName model.name) .record := by
  have word := (Symbols.of_models_worded models .goRecord).types model.name
  refine has_type_of_member word (type_of_file (List.mem_flatMap.mpr ⟨model, member, ?_⟩)
    (declared_type_of_record word))
  simp [Record.blocks]

theorem Package.text_type_of_property {model : Model} (member : model ∈ models)
    (owned : ∀ property ∈ model.properties, property.owner = model.name) {property : Property}
    (inModel : property ∈ model.properties) (enumeration : property.kind = .enumeration) :
    (ofModels library models elsewhere).HasType
      ((Symbols.ofModels models .goRecord).enumName property) .text := by
  let symbols := Symbols.ofModels models .goRecord
  obtain ⟨first, declared, sameName⟩ := Model.distinct_enums_cover inModel
    (show property.isEnumeration = true by simp [Property.isEnumeration, enumeration])
  have sameOwner : first.owner = property.owner :=
    (owned first (Model.distinct_enums_mem declared).1).trans (owned property inModel).symm
  have sameKey : Symbols.enumKey first = Symbols.enumKey property := Prod.ext sameOwner sameName
  rw [← Symbols.enum_name_of_key sameKey]
  have word := (Symbols.of_models_worded models .goRecord).enums first
  have block : (Enumeration.ofProperty symbols first).write ∈ Record.blocks symbols model :=
    List.mem_append_left _ (List.mem_append_left _ (List.mem_append_left _
      (List.mem_map_of_mem declared)))
  exact has_type_of_member word (type_of_file (List.mem_flatMap.mpr ⟨model, member, block⟩)
    (declared_type_of_enumeration word))

theorem Package.date_imported {model : Model} (member : model ∈ models) {property : Property}
    (inModel : property ∈ model.properties) (date : property.kind = .date) :
    (ofModels library models elsewhere).imports.contains "types" = true := by
  rw [List.contains_iff_mem, ofModels, import_paths_of_record, record_packages_imported]
  exact Or.inr (Or.inr ⟨rfl, model, member, property, inModel, date⟩)

/-- The types of a package are those of its file's models, or declared elsewhere. -/
theorem Package.types_cases {type : String × TypeKind}
    (declared : type ∈ (ofModels library models elsewhere).declarations.types) :
    (∃ model ∈ models,
      type = ((Symbols.ofModels models .goRecord).typeName model.name, .record) ∨
        ∃ property ∈ model.distinctEnums,
          type = ((Symbols.ofModels models .goRecord).enumName property, .text)) ∨
      type ∈ elsewhere.types := by
  have worded := Symbols.of_models_worded models .goRecord
  rcases List.mem_append.mp declared with file | other
  · obtain ⟨block, inBlocks, read⟩ := List.mem_filterMap.mp file
    obtain ⟨model, member, inModel⟩ := List.mem_flatMap.mp inBlocks
    exact Or.inl ⟨model, member, type_of_block worded inModel read⟩
  · exact Or.inr other

/-- A name that is given to no type of the models and to none elsewhere. -/
theorem Package.no_type_of_name {name : String}
    (named : ∀ model ∈ models, (Symbols.ofModels models .goRecord).typeName model.name ≠ name ∧
      ∀ property ∈ model.distinctEnums,
        (Symbols.ofModels models .goRecord).enumName property ≠ name)
    (others : ∀ type ∈ elsewhere.types, type.1 ≠ name)
    (isType : predeclaredTypes.contains name = false) :
    (ofModels library models elsewhere).typeNamed? [] name = none := by
  have undeclared : (ofModels library models elsewhere).declarations.types.lookup name = none := by
    rw [List.lookup_eq_none_iff]
    intro type declared
    rw [bne_iff_ne]
    rcases types_cases declared with ⟨model, member, rfl | ⟨property, inEnums, rfl⟩⟩ | other
    · exact Ne.symm (named model member).1
    · exact Ne.symm ((named model member).2 property inEnums)
    · exact Ne.symm (others type other)
  simp only [typeNamed?, undeclared, isType]
  split <;> rfl

/-- All names of a package are in the groups of its file's models, or declared elsewhere. -/
theorem Package.names_cases {name : String}
    (declared : name ∈ (ofModels library models elsewhere).declarations.names) :
    (∃ claimant ∈ Claimant.ofModels models,
      name ∈ claimant.group .goRecord (Symbols.ofModels models .goRecord)) ∨
        name ∈ elsewhere.names := by
  let symbols := Symbols.ofModels models .goRecord
  have worded := Symbols.of_models_worded models .goRecord
  have collection {model : Model} (member : model ∈ models)
      (own : name ∈ Target.goRecord.collectionDeclarations (symbols.typeName model.name)) :
      ∃ claimant ∈ Claimant.ofModels models, name ∈ claimant.group .goRecord symbols :=
    ⟨.collection model.name, Claimant.collection_mem_of_models.mpr ⟨model, member, rfl⟩, own⟩
  rcases List.mem_append.mp declared with typed | other
  · rcases List.mem_append.mp typed with isType | isFunction
    · obtain ⟨type, inTypes, rfl⟩ := List.mem_map.mp isType
      rcases types_cases inTypes with ⟨model, member, rfl | ⟨property, inEnums, rfl⟩⟩ | other
      · exact Or.inl (collection member (by simp [Target.collectionDeclarations, symbols]))
      · refine Or.inl ⟨.enumeration property,
          Claimant.enumeration_mem_of_models.mpr ⟨model, member, inEnums⟩, ?_⟩
        exact List.mem_cons_self ..
      · exact Or.inr (List.mem_append_left _ (List.mem_append_left _ (List.mem_map_of_mem other)))
    · obtain ⟨function, inFunctions, rfl⟩ := List.mem_map.mp isFunction
      rcases List.mem_append.mp inFunctions with file | other
      · obtain ⟨block, inBlocks, read⟩ := List.mem_filterMap.mp file
        obtain ⟨model, member, inModel⟩ := List.mem_flatMap.mp inBlocks
        left
        refine collection member ?_
        rw [function_of_block worded inModel read]
        simp [wrapper, Target.collectionDeclarations, symbols]
      · exact Or.inr (List.mem_append_left _ (List.mem_append_right _ (List.mem_map_of_mem other)))
  · rcases List.mem_append.mp other with file | elsewhereNamed
    · obtain ⟨block, inBlocks, read⟩ := List.mem_flatMap.mp file
      obtain ⟨model, member, inModel⟩ := List.mem_flatMap.mp inBlocks
      obtain ⟨entry, outlined, inGroup⟩ := declared_name_of_block worded inModel read
      exact Or.inl ⟨entry.1, Generator.outline_claimant member outlined, inGroup⟩
    · exact Or.inr (List.mem_append_right _ elsewhereNamed)

/-- A package is unhidden if none of the words of the bodies is declared in it. -/
theorem Package.unhidden_of_clear
    (clear : ∀ word ∈ bodyWords, word ∉ (ofModels library models elsewhere).declarations.names) :
    (ofModels library models elsewhere).Unhidden where
  undeclared word isWord := by
    rw [declares, ← Bool.not_eq_true, List.contains_iff_mem]
    exact clear word isWord
  unimported word isWord := by
    have other : ∀ word ∈ localWords ++ languageWords,
        word ≠ "core" ∧ word ≠ "dbx" ∧ word ≠ "types" := by decide
    obtain ⟨notCore, notQueries, notTypes⟩ := other word isWord
    rw [← Bool.not_eq_true, List.contains_iff_mem, ofModels, import_paths_of_record,
      record_packages_imported]
    simp [notCore, notQueries, notTypes]
  core := by
    rw [List.contains_iff_mem, ofModels, import_paths_of_record, record_packages_imported]
    exact Or.inl rfl
  members receiver name known := by
    have worded := Symbols.of_models_worded models .goRecord
    rw [← Bool.not_eq_true, List.contains_iff_mem]
    intro own
    obtain ⟨block, member, declared⟩ := List.mem_filterMap.mp own
    obtain ⟨model, _, inModel⟩ := List.mem_flatMap.mp member
    obtain ⟨last, handedOut⟩ := Record.all_methods_handed_out
      (Symbols.ofModels models .goRecord) ⟨Record.proxyMembers⟩ model.properties
    exact handedOut.fresh name (method_of_block worded inModel declared) known

/-- Records of a model are wrapped by the function that is declared with it. -/
theorem Package.wraps_model (unhidden : (ofModels library models elsewhere).Unhidden)
    {model : Model} (member : model ∈ models) :
    (ofModels library models elsewhere).Wraps
      ((Symbols.ofModels models .goRecord).typeName model.name) := by
  let package := ofModels library models elsewhere
  let symbols := Symbols.ofModels models .goRecord
  let typeName := symbols.typeName model.name
  let blocks := models.flatMap (Record.blocks symbols)
  have worded := Symbols.of_models_worded models .goRecord
  have named : package.type? [] (.named typeName) = some (.own typeName) :=
    (record_type_of_model member).type
  let fits := fun function : Function =>
    decide (function.name = Target.wrapName typeName) &&
      decide (package.type? [] function.parameter = some .record)
  have own : wrapper typeName ∈ blocks.filterMap declaredFunction? := by
    refine List.mem_filterMap.mpr ⟨_, List.mem_flatMap.mpr ⟨model, member, ?_⟩,
      declared_wrap_function (worded.types model.name)⟩
    exact List.mem_append_right _ (List.mem_cons_self ..)
  -- A function of that name wraps records of that type, whichever model it is declared with.
  have only : ∀ function ∈ blocks.filterMap declaredFunction?, fits function = true →
      function = wrapper typeName := by
    intro function declared fitting
    obtain ⟨block, inFile, read⟩ := List.mem_filterMap.mp declared
    obtain ⟨other, _, inModel⟩ := List.mem_flatMap.mp inFile
    have wraps := function_of_block worded inModel read
    have sameName : Target.wrapName (symbols.typeName other.name) = Target.wrapName typeName := by
      rw [wraps] at fitting
      exact of_decide_eq_true (Bool.and_eq_true_iff.mp fitting).1
    rw [wraps, String.append_right_inj _ |>.mp sameName]
  have first : package.declarations.functions.find? fits = some (wrapper typeName) := by
    have suits : fits (wrapper typeName) = true := by
      simp [fits, wrapper, type_record unhidden, package]
    cases found : (blocks.filterMap declaredFunction?).find? fits with
    | none => exact absurd suits (by simpa using List.find?_eq_none.mp found _ own)
    | some function =>
        have same := only function (List.mem_of_find?_eq_some found) (List.find?_some found)
        show (blocks.filterMap declaredFunction? ++ elsewhere.functions).find? fits = _
        rw [List.find?_append, found, same]
        rfl
  refine ⟨.own typeName, named, ?_⟩
  have result : package.type? [] (wrapper typeName).result = some (.pointer (.own typeName)) := by
    simp [wrapper, named]
  exact Option.bind_eq_some_iff.mpr ⟨_, first, result⟩

end File

/-- The words that a setter writes beside its parameter. -/
theorem parameter_free {name : String} (named : parameterName name Record.locals ≠ "_") :
    parameterName name Record.locals ∉
      ["p", "i", "value", "values", "string", "make", "len"] := by
  have letters : camelLetters name ≠ [] := fun none => named (parameter_name_blank none _)
  have usable := parameter_name_usable name (show Unmarked Record.locals by decide) letters
  have taken : ∀ word ∈ ["p", "i", "value", "values", "string", "make", "len"],
      (!isReserved word && !Record.locals.contains word) = false := by decide
  intro member
  have free := taken _ member
  unfold isUsable at usable
  split at usable
  · exact absurd usable Bool.false_ne_true
  · simp only [Bool.and_eq_true] at usable
    rw [usable.1.2, usable.2] at free
    exact absurd free (by decide)

/-- What the methods of one property need of their package. -/
structure Package.Serves (package : Package) (symbols : Symbols) (property : Property) : Prop where
  dates : property.kind = .date → package.imports.contains "types" = true
  texts : property.kind = .enumeration → package.HasType (symbols.enumName property) .text

section Values

variable {package : Package} (unhidden : package.Unhidden) {symbols : Symbols}
  {property : Property} (serves : package.Serves symbols property)

include unhidden serves

/-- The type of a value is one, and a setter can put its values into a record. -/
theorem value_type_accepted : ∃ given, package.type? [] (valueType symbols property) = some given ∧
    (Writing.ofProperty property).accepts package given = true := by
  have plain {type : GoType} {element : TypeExpr} (named : package.type? [] element = some type)
      (writes : Writing.ofProperty property = .plain) : ∃ given,
      package.type? [] (if property.array then .slice element else element) = some given ∧
        (Writing.ofProperty property).accepts package given = true := by
    rw [writes]
    split
    · exact ⟨.slice type, by rw [Package.type_slice, named]; rfl, rfl⟩
    · exact ⟨type, named, rfl⟩
  cases kind : property.kind with
  | enumeration =>
      have declared := serves.texts kind
      simp only [valueType, Writing.ofProperty, kind]
      cases property.array with
      | true =>
          exact ⟨.slice (.own (symbols.enumName property)), by simp [declared.type],
            declared.declared⟩
      | false => exact ⟨.own (symbols.enumName property), declared.type, declared.declared⟩
  | date =>
      have named := Package.type_imported unhidden (by decide) (serves.dates kind)
        (show Text.split '.' "types.DateTime" = ["types", "DateTime"] by decide)
      simp only [valueType, kind]
      exact plain named (by simp [Writing.ofProperty, kind])
  | number =>
      simp only [valueType, kind]
      exact plain (Package.type_of_word unhidden (by decide) (by decide) (by decide))
        (by simp [Writing.ofProperty, kind])
  | boolean =>
      simp only [valueType, kind]
      exact plain (Package.type_of_word unhidden (by decide) (by decide) (by decide))
        (by simp [Writing.ofProperty, kind])
  | json =>
      simp only [valueType, kind]
      exact plain (Package.type_object_map unhidden) (by simp [Writing.ofProperty, kind])
  | text | file | relation =>
      simp only [valueType, kind]
      exact plain (Package.type_string unhidden) (by simp [Writing.ofProperty, kind])

end Values

/-- A method with the types that its property has. Its code is what its text says; a setter is well
typed unless its parameter is the blank identifier, and an expander if the records of its target can
be wrapped. -/
def Method.Typed (around : Surroundings) (symbols : Symbols) (property : Property)
    (method : Method) : Prop :=
  match method with
  | .getter .. => method.code.parameters = [] ∧
      method.code.results = [valueType symbols property] ∧
      method.code.isTyped around around.inside = true
  | .integerGetter .. => method.code.parameters = [] ∧ method.code.results = [.int] ∧
      method.code.isTyped around around.inside = true
  | .setter _ _ parameter _ _ =>
      method.code.parameters = [(parameter, valueType symbols property)] ∧
      method.code.results = [] ∧
      (method.code.isTyped around around.inside = true ↔ parameter ≠ "_")
  | .expander .. => method.code.parameters = [("app", .app)] ∧
      method.code.results = [expandedType symbols property, .error] ∧
      (method.code.isTyped around around.inside = true ↔
        ∀ target ∈ property.relationTarget?, around.package.Wraps (symbols.typeName target))

namespace Record

theorem method_typed {around : Surroundings} (sound : around.Sound) {symbols : Symbols}
    {property : Property} (serves : around.package.Serves symbols property)
    (several : property.array = true → property.kind.supportsMultiple = true) {method : Method}
    (found : MethodOf symbols property method) : method.Typed around symbols property := by
  cases found with
  | getter word =>
      have read : (Reading.ofProperty symbols property).type = valueType symbols property :=
        (reading_type_iff symbols property).mpr fun array => Or.inl (several array)
      have dates : Reading.ofProperty symbols property = .dateTime → property.kind = .date := by
        cases kind : property.kind <;> cases array : property.array <;>
          simp [Reading.ofProperty, kind, array]
      have texts : ∀ name ∈ (Reading.ofProperty symbols property).typeName?,
          property.kind = .enumeration ∧ name = symbols.enumName property := by
        cases kind : property.kind <;> cases array : property.array <;>
          simp [Reading.ofProperty, Reading.typeName?, kind, array]
      have typed := reading_typed sound property.name (.ofProperty symbols property)
        (fun reads => serves.dates (dates reads))
        (fun name named => (texts name named).2 ▸ serves.texts (texts name named).1)
      rw [read] at typed
      have shape (reading : Reading) (result : TypeExpr) :
          (reading.code property.name result).parameters = [] ∧
            (reading.code property.name result).results = [result] := by
        cases reading <;> exact ⟨rfl, rfl⟩
      exact ⟨(shape _ _).1, (shape _ _).2, typed⟩
  | integerGetter word number => exact ⟨rfl, rfl, integer_typed sound property.name⟩
  | setter word writable =>
      refine ⟨rfl, rfl, ?_⟩
      obtain ⟨given, named, accepted⟩ := value_type_accepted sound.unhidden serves
      by_cases blank : parameterName property.name locals = "_"
      · have untyped := blank_setter_untyped around property.name
          (valueType symbols property) (.ofProperty property)
        simp [Method.code, blank, untyped]
      · have typed := setter_typed sound property.name blank (parameter_free blank) named accepted
        simp [Method.code, blank, typed]
  | expander word relation =>
      refine ⟨rfl, ?_, ?_⟩
      · rw [← expansion_type_eq]
        rfl
      · rw [Method.code, expander_typed_iff sound property.name, expansion_type_name]
        simp

/-- The methods of a property are all that its claims gave, whatever was claimed before. -/
theorem attributed_of_property (symbols : Symbols) {properties : List Property}
    {property : Property} (member : property ∈ properties) (space : Namespace) :
    ∃ before, ∀ method ∈ (methodsOf symbols before property).1,
      (property, method) ∈ attributed symbols space properties := by
  induction properties generalizing space with
  | nil => contradiction
  | cons first properties induction =>
      rcases List.mem_cons.mp member with rfl | later
      · refine ⟨space, fun method own => ?_⟩
        exact List.mem_append_left _ (List.mem_map_of_mem own)
      · obtain ⟨before, found⟩ := induction later (methodsOf symbols space first).2
        exact ⟨before, fun method own => List.mem_append_right _ (found method own)⟩

theorem getter_attributed (symbols : Symbols) {properties : List Property} {property : Property}
    (member : property ∈ properties) (space : Namespace) :
    ∃ name, (property, Method.getter name property.name (valueType symbols property)
      (.ofProperty symbols property)) ∈ attributed symbols space properties := by
  obtain ⟨before, present⟩ := attributed_of_property symbols member space
  exact ⟨_, present _ (List.mem_append_left _ (List.mem_append_left _ (List.mem_append_left _
    (List.mem_cons_self ..))))⟩

theorem setter_attributed (symbols : Symbols) {properties : List Property} {property : Property}
    (member : property ∈ properties) (writable : isReadOnly property = false)
    (space : Namespace) : ∃ name, (property, Method.setter name property.name
      (parameterName property.name locals) (valueType symbols property) (.ofProperty property)) ∈
        attributed symbols space properties := by
  obtain ⟨before, present⟩ := attributed_of_property symbols member space
  obtain ⟨name, own⟩ : ∃ name, Method.setter name property.name
      (parameterName property.name locals) (valueType symbols property) (.ofProperty property) ∈
        (methodsOf symbols before property).1 := by
    simp [methodsOf, writable, claimIf]
  exact ⟨name, present _ own⟩

theorem expander_attributed (symbols : Symbols) {properties : List Property} {property : Property}
    (member : property ∈ properties) (relation : property.isRelation = true)
    (space : Namespace) : ∃ name, (property, Method.expander name property.name
      (.ofProperty symbols property)) ∈ attributed symbols space properties := by
  obtain ⟨before, present⟩ := attributed_of_property symbols member space
  obtain ⟨name, own⟩ : ∃ name, Method.expander name property.name (.ofProperty symbols property) ∈
      (methodsOf symbols before property).1 := by
    simp [methodsOf, relation, claimIf]
  exact ⟨name, present _ own⟩

/-- Over a library with its documented signatures, in a file that declares none of the words of the
bodies: every property of an interpreted model has its getter, its setter unless it is read-only and
its expander if it is a relation. All of them are written in the file as their code, and well typed
with the types of the property. An expander is so just if its package wraps the records of its
target; the file itself wraps those of every selected collection. -/
theorem methods_well_typed {library : Library} (documented : library.Documented)
    (pool selected : List Collection) (options : InterpretOptions) (elsewhere : Declarations)
    (clear : ∀ word ∈ bodyWords, word ∉ (Package.ofModels library
      (interpret pool options selected).models elsewhere).declarations.names) :
    let models := (interpret pool options selected).models
    let symbols := Symbols.ofModels models .goRecord
    let package := Package.ofModels library models elsewhere
    ∀ model ∈ models,
      let around : Surroundings := ⟨package, symbols.typeName model.name⟩
      let methods := attributed symbols ⟨proxyMembers⟩ model.properties
      (∀ property ∈ model.properties,
        let value := valueType symbols property
        (∃ name, (property, .getter name property.name value (.ofProperty symbols property)) ∈
          methods) ∧
        (isReadOnly property = false → ∃ name, (property, .setter name property.name
          (parameterName property.name locals) value (.ofProperty property)) ∈ methods) ∧
        (property.isRelation = true → ∃ name,
          (property, .expander name property.name (.ofProperty symbols property)) ∈ methods) ∧
        ∀ method, (property, method) ∈ methods →
          method.write around.receiver ∈ blocks symbols model ∧
          method.write around.receiver =
            Method.head around.receiver method.name ++ method.code.write ∧
          method.Typed around symbols property) ∧
      package.Wraps around.receiver ∧
      wrapFunction around.receiver ∈ blocks symbols model ∧
      wrapFunction around.receiver =
        "func " ++ Target.wrapName around.receiver ++ (wrapCode around.receiver).write ∧
      (wrapCode around.receiver).isTyped around [] = true := by
  intro models symbols package model member around methods
  have unhidden : package.Unhidden := Package.unhidden_of_clear clear
  have sound : around.Sound :=
    ⟨documented, unhidden, Package.record_type_of_model member⟩
  have belongs {property : Property} (inModel : property ∈ model.properties) :=
    Interpretation.property_of_model member inModel
  refine ⟨?_, Package.wraps_model unhidden member, List.mem_append_right _ (List.mem_cons_self ..),
    wrap_function_eq_code _, wrap_typed sound⟩
  intro property inModel value
  refine ⟨getter_attributed symbols inModel _,
    fun writable => setter_attributed symbols inModel writable _,
    fun relation => expander_attributed symbols inModel relation _, ?_⟩
  intro method found
  have serves : package.Serves symbols property :=
    ⟨Package.date_imported member inModel,
      Package.text_type_of_property member (fun _ inModel => (belongs inModel).1) inModel⟩
  have text : method.write around.receiver =
      Method.head around.receiver method.name ++ method.code.write :=
    congrArg (Method.head around.receiver method.name ++ ·) method.tail_eq_code
  exact ⟨attributed_written found, text,
    method_typed sound serves (belongs inModel).2 (method_of_attributed found).2⟩

def selectedLibrary : Library where
  field type name := if type = .proxy ∧ name = "Record" then some .record else none
  method type name :=
    if type = .proxy then
      [("SetProxyRecord", ⟨[.record], none⟩), ("Set", ⟨[.text, .basic "any"], none⟩),
        ("GetString", ⟨[.text], some .text⟩),
        ("GetStringSlice", ⟨[.text], some (.slice .text)⟩),
        ("GetFloat", ⟨[.text], some (.basic "float64")⟩),
        ("GetBool", ⟨[.text], some (.basic "bool")⟩),
        ("GetDateTime", ⟨[.text], some .dateTime⟩),
        ("GetInt", ⟨[.text], some (.basic "int")⟩),
        ("UnmarshalJSONField", ⟨[.text, .basic "any"], some .error⟩),
        ("ExpandedOne", ⟨[.text], some .record⟩),
        ("ExpandedAll", ⟨[.text], some (.slice .record)⟩)].lookup name
    else if type = .app ∧ name = "ExpandRecord" then
      some ⟨[.record, .slice .text, .imported "core" "ExpandFetchFunc"],
        some (.map .text .error)⟩
    else none
  nilTypes := [.imported "core" "ExpandFetchFunc"]

theorem selected_library_documented : selectedLibrary.Documented := by
  constructor <;> decide

def relatedField : Field :=
  { name := "authors", typeTag := "relation", collectionId := "a", maxSelect := 3 }

def relatedCollection : Collection where
  name := "posts"
  fields := [relatedField, { name := "tags", typeTag := "select", maxSelect := 2 },
    { name := "views", typeTag := "number", maxSelect := 3 }]

def relatedPool : List Collection := [relatedCollection, { id := "a", name := "authors" }]

def relatedModels : List Model := (interpret relatedPool {} relatedPool).models

def relatedSymbols : Symbols := Symbols.ofModels relatedModels .goRecord

def relatedPackage : Package := Package.ofModels selectedLibrary relatedModels {}

theorem related_package_clear :
    ∀ word ∈ bodyWords, word ∉ relatedPackage.declarations.names := by
  have groups : ∀ word ∈ bodyWords, ∀ claimant ∈ Claimant.ofModels relatedModels,
      word ∉ claimant.group .goRecord relatedSymbols := by decide +kernel
  intro word isWord declared
  rcases Package.names_cases declared with ⟨claimant, member, inGroup⟩ | other
  · exact groups word isWord claimant member inGroup
  · exact absurd other List.not_mem_nil

def relatedSurroundings : Surroundings := ⟨relatedPackage, "Posts"⟩

/-- The expander of a relation to several records of a selected collection. -/
theorem methods_well_typed_related :
    selectedLibrary.Documented ∧
      (∀ word ∈ bodyWords, word ∉ relatedPackage.declarations.names) ∧
      ∃ model ∈ relatedModels, ∃ name,
        let method := Method.expander name "authors" (.many "Authors")
        method.write "Posts" ∈ blocks relatedSymbols model ∧
          method.code.results = [.slice (.pointer (.named "Authors")), .error] ∧
          method.code.isTyped relatedSurroundings relatedSurroundings.inside = true := by
  let model := Interpretation.modelOf relatedPool {} relatedCollection
  let authors := Interpretation.modelOf relatedPool {} { id := "a", name := "authors" }
  let property := Interpretation.propertyOf relatedPool "posts" relatedField
  have member : model ∈ relatedModels := List.mem_cons_self ..
  have other : authors ∈ relatedModels := List.mem_cons_of_mem _ (List.mem_cons_self ..)
  have inModel : property ∈ model.properties := List.mem_cons_self ..
  have receiver : relatedSymbols.typeName model.name = "Posts" := by decide +kernel
  have expansion : Expansion.ofProperty relatedSymbols property = .many "Authors" := by
    decide +kernel
  have typed := methods_well_typed selected_library_documented relatedPool relatedPool {} {}
    related_package_clear
  have wraps := (typed authors other).2.1
  obtain ⟨_, _, expanders, all⟩ := (typed model member).1 property inModel
  obtain ⟨name, found⟩ := expanders rfl
  obtain ⟨written, _, _, results, typedIff⟩ := all _ found
  have isTyped := typedIff.mpr fun target isTarget => Option.some.inj isTarget ▸ wraps
  let around : Surroundings := ⟨relatedPackage, relatedSymbols.typeName model.name⟩
  let method := Method.expander name "authors" (.ofProperty relatedSymbols property)
  have held : method.write around.receiver ∈ blocks relatedSymbols model ∧
      method.code.results = [expandedType relatedSymbols property, .error] ∧
      method.code.isTyped around around.inside = true := ⟨written, results, isTyped⟩
  have sameAround : around = relatedSurroundings := congrArg (Surroundings.mk _) receiver
  have sameMethod : method = .expander name "authors" (.many "Authors") :=
    congrArg (Method.expander name "authors") expansion
  have sameType : expandedType relatedSymbols property = .slice (.pointer (.named "Authors")) := by
    rw [← expansion_type_eq, expansion]
    rfl
  rw [sameAround, sameMethod, sameType] at held
  exact ⟨selected_library_documented, related_package_clear, model, member, name, held⟩

/-- Collections whose types are named like one of the language, and like the function that makes
records of the other. -/
def hidingPool : List Collection := [
    { id := "f", name := "éfloat64" },
    { id := "n", name := "new_posts" },
    { id := "p", name := "posts", fields := [
      { name := "views", typeTag := "number" },
      { name := "next", typeTag := "relation", collectionId := "n" }] }
  ]

def hidingModels : List Model :=
  (interpret hidingPool {} (hidingPool.filter (·.id != "n"))).models

def hidingSurroundings : Surroundings :=
  ⟨Package.ofModels selectedLibrary hidingModels {}, "Posts"⟩

def hidingSymbols : Symbols := Symbols.ofModels hidingModels .goRecord

theorem no_type_of_hiding_function :
    hidingSurroundings.package.type? [] (.named "NewPosts") = none := by
  have others : ∀ model ∈ hidingModels,
      (Symbols.ofModels hidingModels .goRecord).typeName model.name ≠ "NewPosts" ∧
        ∀ property ∈ model.distinctEnums,
          (Symbols.ofModels hidingModels .goRecord).enumName property ≠ "NewPosts" := by
    decide +kernel
  have single : '.' ∉ "NewPosts".toList := by decide
  rw [Package.type?, Package.qualifiedType?, Text.split_single single]
  exact Package.no_type_of_name others (fun _ none => absurd none List.not_mem_nil) (by decide)

/-- A getter returns a number where its result is a type of the file, and an expander's result is no
type at all, but a function of the file. -/
theorem hidden_types_ill_typed :
    let getter := Method.getter "Views" "views" .float .float
    let expander := Method.expander "ExpandNext" "next" (.one "NewPosts")
    ∃ model ∈ hidingModels,
      getter.write "Posts" ∈ blocks hidingSymbols model ∧ getter.code.results = [.float] ∧
        hidingSurroundings.package.type? [] .float = some (.own "float64") ∧
        getter.code.isTyped hidingSurroundings hidingSurroundings.inside = false ∧
      expander.write "Posts" ∈ blocks hidingSymbols model ∧
        expander.code.results = [.pointer (.named "NewPosts"), .error] ∧
        "NewPosts" ∈ hidingSurroundings.package.declarations.names ∧
        expander.code.isTyped hidingSurroundings hidingSurroundings.inside = false := by
  intro getter expander
  let model := hidingModels[1]
  have member : model ∈ hidingModels := List.getElem_mem _
  have receiver : hidingSymbols.typeName model.name = "Posts" := by decide +kernel
  have declared : getter ∈ methods hidingSymbols model ∧
      expander ∈ methods hidingSymbols model := by
    decide +kernel
  have written {method : Method} (isMethod : method ∈ methods hidingSymbols model) :
      method.write "Posts" ∈ blocks hidingSymbols model := by
    rw [← receiver]
    exact bodies_rendered _ _ _ (List.mem_append_left _ (List.mem_map_of_mem isMethod))
  have hidden : hidingSurroundings.package.type? [] .float = some (.own "float64") := by
    have first : hidingModels[0] ∈ hidingModels := List.getElem_mem _
    have name : hidingSymbols.typeName hidingModels[0].name = "float64" := by decide +kernel
    have has : hidingSurroundings.package.HasType (hidingSymbols.typeName hidingModels[0].name)
        .record := Package.record_type_of_model first
    rw [name] at has
    exact has.type
  have taken : "NewPosts" ∈ hidingSurroundings.package.declarations.names := by
    have worded : hidingSymbols.Worded := Symbols.of_models_worded hidingModels .goRecord
    have inFunctions : Target.newName (hidingSymbols.typeName model.name) ∈
        (functionBlocks (hidingSymbols.typeName model.name)).flatMap Outline.declaredIn := by
      rw [Outline.declared_in_function_blocks (worded.types model.name)]
      simp
    rw [receiver] at inFunctions
    obtain ⟨block, isFunction, read⟩ := List.mem_flatMap.mp inFunctions
    have inModel : block ∈ blocks hidingSymbols model := by
      rw [← receiver] at isFunction
      exact List.mem_append_right _ isFunction
    exact List.mem_append_right _ (List.mem_append_left _ (List.mem_flatMap.mpr
      ⟨block, List.mem_flatMap.mpr ⟨model, member, inModel⟩, read⟩))
  have untyped := call_code_untyped hidingSurroundings "views" selected_library_documented.float
    hidden (by decide)
  exact ⟨model, member, written declared.1, rfl, hidden, untyped, written declared.2, rfl, taken,
    untyped_without_results "next" (by simp [Expansion.type, no_type_of_hiding_function])⟩

end Record

end Go

end CollectionTypes
