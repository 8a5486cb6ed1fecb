import CollectionTypes.Generator.Basic
import CollectionTypes.Proofs.Go.Accessors

/-!
The imports of an output in Go, read off its header, against the packages that its code names. The
header is written before any code and asks for the kinds of properties alone; here the two are shown
to meet for every style, and whatever the flags of the properties are. The name of a property has a
say in a struct only: with a backquote it ends the tag that it stands in, and what follows it there
is code of its own, which may name what no header imports.
-/

namespace CollectionTypes

open Naming Text

namespace Go

def packageClause (package : String) : String :=
  "// Code generated by pocketgen. DO NOT EDIT.\n\npackage " ++ package

def importPath? (line : List Char) : Option String :=
  (["import \"", "\t\""].findSome? fun opening => line.dropPrefix? opening.toList).map
    fun path => String.ofList (path.takeWhile (· ≠ '"'))

def importPaths (text : String) : List String :=
  (pieces (· = '\n') text.toList).filterMap importPath?

/-- The name under which a file refers to what it imports: the last part of the path. -/
def packageName (path : String) : String :=
  String.ofList ((pieces (· = '/') path.toList).getLastD [])

theorem import_paths_of_struct (models : List Model) :
    importPaths (importText (structImports models)) = structImports models := by
  unfold structImports
  split <;> decide +kernel

theorem import_paths_of_record (models : List Model) :
    importPaths (importText (recordImports models)) = recordImports models := by
  unfold recordImports
  split <;> decide +kernel

theorem uses_dates_iff {models : List Model} :
    usesDates models = true ↔ ∃ model ∈ models, model.HasDate := by
  simp [usesDates, Model.HasDate]

theorem types_named : packageName typesImport = "types" := by decide +kernel

theorem core_named : packageName coreImport = "core" := by decide +kernel

theorem query_named : packageName queryImport = "dbx" := by decide +kernel

theorem mem_struct_imports {models : List Model} {path : String} :
    path ∈ structImports models ↔ path = typesImport ∧ ∃ model ∈ models, model.HasDate := by
  rw [← uses_dates_iff]
  unfold structImports
  split <;> simp [*]

theorem mem_record_imports {models : List Model} {path : String} :
    path ∈ recordImports models ↔ path = queryImport ∨ path = coreImport ∨
      path = typesImport ∧ ∃ model ∈ models, model.HasDate := by
  have types : path ∈ (if usesDates models then [typesImport] else []) ↔
      path = typesImport ∧ ∃ model ∈ models, model.HasDate := mem_struct_imports
  simp [recordImports, types]

theorem struct_packages_imported {models : List Model} {package : String} :
    package ∈ (structImports models).map packageName ↔
      package = "types" ∧ ∃ model ∈ models, model.HasDate := by
  simp only [List.mem_map, mem_struct_imports]
  constructor
  · rintro ⟨path, ⟨rfl, date⟩, rfl⟩
    exact ⟨types_named, date⟩
  · rintro ⟨rfl, date⟩
    exact ⟨typesImport, ⟨rfl, date⟩, types_named⟩

theorem record_packages_imported {models : List Model} {package : String} :
    package ∈ (recordImports models).map packageName ↔ package = "core" ∨ package = "dbx" ∨
      package = "types" ∧ ∃ model ∈ models, model.HasDate := by
  have types : package ∈ (if usesDates models then [typesImport] else []).map packageName ↔
      package = "types" ∧ ∃ model ∈ models, model.HasDate := struct_packages_imported
  rw [recordImports, List.map_append, List.mem_append, types]
  simp [core_named, query_named, or_assoc, or_left_comm]

theorem imports_nodup (models : List Model) :
    (structImports models).Nodup ∧ (recordImports models).Nodup := by
  unfold structImports recordImports
  split <;> decide +kernel

def dateTypes : List String :=
  ["types.DateTime", "*types.DateTime", "[]types.DateTime", "*[]types.DateTime"]

theorem date_type_packages : ∀ type ∈ dateTypes, "types" ∈ packages type := by decide +kernel

theorem type_of_date (style : Style) (symbols : Symbols) {property : Property}
    (date : property.kind = .date) : (typeOf style symbols property).write ∈ dateTypes := by
  cases array : property.array <;>
    cases explicit : property.optional && style.explicitOptional <;>
    simp only [typeOf, elementType, date, array, explicit] <;> decide

theorem value_type_of_date (symbols : Symbols) {property : Property}
    (date : property.kind = .date) : (valueType symbols property).write ∈ dateTypes := by
  cases array : property.array <;> simp only [valueType, date, array] <;> decide

theorem value_text_packages {symbols : Symbols} (worded : symbols.Worded) {property : Property}
    {method : Method} (found : Record.MethodOf symbols property method) :
    ∀ type ∈ method.valueText?, ∀ package ∈ packages type, package ∈ datePackages property := by
  have value : packages (valueType symbols property).write = datePackages property :=
    (uses_written_type (value_type_known worded)).trans (value_type_packages worded property)
  intro type text package used
  cases found with
  | getter word | setter word _ =>
      rwa [← Option.some.inj text, value] at used
  | integerGetter word number =>
      have none : packages "int" = [] := by decide
      rw [← Option.some.inj text, none] at used
      contradiction
  | expander word relation => contradiction

section Blocks

variable {symbols : Symbols} (worded : symbols.Worded) (model : Model)

include worded

theorem member_types_of_enumerations :
    (model.distinctEnums.map fun property =>
      (Enumeration.ofProperty symbols property).write).flatMap memberTypes = [] := by
  rw [List.flatMap_map, List.flatMap_eq_nil_iff]
  exact fun property _ => member_types_of_enumeration (worded.enums property)

/-- The types of fields are what the structs of a model say of their members. -/
theorem Struct.member_types_of_blocks (style : Style)
    (unbroken : ∀ struct ∈ all style symbols model, struct.Unbroken) :
    (blocks style symbols model).flatMap memberTypes =
      (all style symbols model).flatMap fun struct => struct.fields.map (·.type.write) := by
  rw [blocks_of_all, List.flatMap_append, member_types_of_enumerations worded, List.nil_append,
    List.flatMap_map]
  exact List.flatMap_congr fun struct member =>
    member_types_of_struct (all_known worded style model struct member) (unbroken struct member)

/-- A field is of the date type where a property is a date, and nowhere else. -/
theorem Struct.date_type_iff (style : Style)
    (unbroken : ∀ struct ∈ all style symbols model, struct.Unbroken) :
    (∃ type ∈ (blocks style symbols model).flatMap memberTypes, type ∈ dateTypes) ↔
      model.HasDate := by
  rw [member_types_of_blocks worded model style unbroken]
  constructor
  · rintro ⟨type, member, date⟩
    obtain ⟨struct, inModel, inStruct⟩ := List.mem_flatMap.mp member
    obtain ⟨field, inFields, rfl⟩ := List.mem_map.mp inStruct
    have known := (all_known worded style model struct inModel).2 field inFields
    have used := date_type_packages _ date
    rw [uses_written_type known.2] at used
    have inTypes : "types" ∈ struct.typePackages :=
      List.mem_flatMap.mpr ⟨field.type, List.mem_map_of_mem inFields, used⟩
    exact ((all_type_packages worded style model).mp
      (List.mem_flatMap.mpr ⟨struct, inModel, inTypes⟩)).2
  · rintro ⟨property, member, date⟩
    have typed : typeOf style symbols property ∈
        (Struct.ofModel style symbols model).fields.map (·.type) := by
      rw [Struct.types_of_model]
      exact List.mem_append_left _ (List.mem_map_of_mem member)
    obtain ⟨field, inStruct, same⟩ := List.mem_map.mp typed
    have written : (typeOf style symbols property).write ∈
        (Struct.ofModel style symbols model).fields.map (·.type.write) :=
      List.mem_map.mpr ⟨field, inStruct, congrArg TypeExpr.write same⟩
    exact ⟨_, List.mem_flatMap.mpr ⟨_, List.mem_cons_self .., written⟩,
      type_of_date style symbols date⟩

/-- The types of getters and setters are what the blocks of a record type say of their members. -/
theorem Record.member_types_of_blocks : (blocks symbols model).flatMap memberTypes =
    (methods symbols model).filterMap (·.valueText?) := by
  let name := symbols.typeName model.name
  have word : IsWord name := worded.types model.name
  have enumerations := member_types_of_enumerations worded model
  have functions : (functionBlocks name).flatMap memberTypes = [] :=
    List.flatMap_eq_nil_iff.mpr (member_types_of_functions name)
  have methods : ((methods symbols model).map (·.write name)).flatMap memberTypes =
      (methods symbols model).filterMap (·.valueText?) := by
    rw [List.flatMap_map, List.filterMap_eq_flatMap_toList]
    refine List.flatMap_congr fun method isMethod => ?_
    obtain ⟨property, _, found⟩ := method_of_all_methods isMethod
    exact member_types_of_method worded found word
  simp only [blocks, List.flatMap_append, List.flatMap_cons, List.flatMap_nil, enumerations,
    member_types_of_collection_constant, member_types_of_type_block word, methods, functions,
    List.nil_append, List.append_nil, name]

/-- A getter or a setter is of the date type where a property is a date, and nowhere else. -/
theorem Record.date_type_iff :
    (∃ type ∈ (blocks symbols model).flatMap memberTypes, type ∈ dateTypes) ↔ model.HasDate := by
  rw [member_types_of_blocks worded]
  constructor
  · rintro ⟨type, member, date⟩
    obtain ⟨method, isMethod, text⟩ := List.mem_filterMap.mp member
    obtain ⟨property, inModel, found⟩ := Record.method_of_all_methods isMethod
    have used := value_text_packages worded found type text "types" (date_type_packages type date)
    exact ⟨property, inModel, (mem_date_packages.mp used).2⟩
  · rintro ⟨property, member, date⟩
    obtain ⟨name, isMethod⟩ := Record.getter_of_property symbols member ⟨Record.proxyMembers⟩
    exact ⟨_, List.mem_filterMap.mpr ⟨_, isMethod, rfl⟩, value_type_of_date symbols date⟩

end Blocks

end Go

namespace Generator

def goTypes (generator : Generator) (symbols : Symbols) (model : Model) : List String :=
  (generator.blocks symbols model).flatMap Go.memberTypes

def usedPackages (generator : Generator) (symbols : Symbols) (model : Model) : List String :=
  (generator.blocks symbols model).flatMap Go.packages

/-- No name ends the raw string in which a struct keeps it. -/
def Unbroken (generator : Generator) (model : Model) : Prop :=
  generator.target = .goStruct → ∀ property ∈ model.properties, '\x60' ∉ property.name.toList

variable {generator : Generator} {symbols : Symbols} (worded : symbols.Worded) {model : Model}

include worded

theorem used_packages_of_struct (target : generator.target = .goStruct)
    (unbroken : generator.Unbroken model) {package : String} :
    package ∈ generator.usedPackages symbols model ↔ package = "types" ∧ model.HasDate := by
  have enumerations := Go.Enumeration.no_packages worded model.distinctEnums package
  simp only [usedPackages, blocks, target, Go.Struct.blocks_of_all, List.flatMap_append,
    List.mem_append, enumerations, false_or]
  exact Go.Struct.packages_of_all worded generator.style model
    (Go.Struct.unbroken_of_names (unbroken target))

theorem used_packages_of_record (target : generator.target = .goRecord) {package : String} :
    package ∈ generator.usedPackages symbols model ↔
      package = "core" ∨ package = "dbx" ∨ package = "types" ∧ model.HasDate := by
  simp only [usedPackages, blocks, target]
  exact Go.Record.packages_of_blocks worded model

theorem date_type_iff (inGo : generator.target ≠ .typeScript)
    (unbroken : generator.Unbroken model) :
    (∃ type ∈ generator.goTypes symbols model, type ∈ Go.dateTypes) ↔ model.HasDate := by
  cases target : generator.target with
  | typeScript => exact absurd target inGo
  | goStruct =>
      simp only [goTypes, blocks, target]
      exact Go.Struct.date_type_iff worded model generator.style
        (Go.Struct.unbroken_of_names (unbroken target))
  | goRecord =>
      simp only [goTypes, blocks, target]
      exact Go.Record.date_type_iff worded model

omit worded

/-- A clause of imports that fits the models under it: it is the rest of the header, and the
packages that it brings in are those that the code names. -/
structure ImportsFit (generator : Generator) (models : List Model) (clause : String) : Prop where
  header : generator.header? models = some (Go.packageClause generator.package ++ clause)
  text : generator.generate models =
    joinBlocks ((Go.packageClause generator.package ++ clause) ::
      models.map (generator.renderWith (Symbols.ofModels models generator.target))) ++ "\n"
  types : Go.typesImport ∈ Go.importPaths clause ↔ ∃ model ∈ models,
    ∃ type ∈ generator.goTypes (Symbols.ofModels models generator.target) model,
      type ∈ Go.dateTypes
  struct : generator.target = .goStruct →
    ∀ path ∈ Go.importPaths clause, path = Go.typesImport
  record : generator.target = .goRecord →
    ∀ path ∈ [Go.coreImport, Go.queryImport], path ∈ Go.importPaths clause ∧
      ∀ model ∈ models, Go.packageName path ∈
        generator.usedPackages (Symbols.ofModels models generator.target) model
  distinct : (Go.importPaths clause).Nodup
  exact : ∀ package, package ∈ (Go.importPaths clause).map Go.packageName ↔ ∃ model ∈ models,
    package ∈ generator.usedPackages (Symbols.ofModels models generator.target) model

section Headers

variable {generator : Generator} {models : List Model}

/-- A header heads an output that has any models. -/
theorem generate_headed (someModel : models ≠ []) {header : String}
    (headed : generator.header? models = some header) :
    generator.generate models = joinBlocks (header ::
      models.map (generator.renderWith (Symbols.ofModels models generator.target))) ++ "\n" := by
  simp [generate, someModel, headed]

section Unbroken

variable (unbroken : ∀ model ∈ models, generator.Unbroken model)

include unbroken

theorem date_type_in_models (inGo : generator.target ≠ .typeScript) : (∃ model ∈ models,
    ∃ type ∈ generator.goTypes (Symbols.ofModels models generator.target) model,
      type ∈ Go.dateTypes) ↔ ∃ model ∈ models, model.HasDate :=
  exists_congr fun model => and_congr_right fun member =>
    date_type_iff (Symbols.of_models_worded models generator.target) inGo (unbroken model member)

theorem date_used_in_models (target : generator.target = .goStruct) {package : String} :
    (∃ model ∈ models,
      package ∈ generator.usedPackages (Symbols.ofModels models generator.target) model) ↔
      package = "types" ∧ ∃ model ∈ models, model.HasDate := by
  have worded := Symbols.of_models_worded models generator.target
  constructor
  · rintro ⟨model, member, used⟩
    obtain ⟨types, date⟩ :=
      (used_packages_of_struct worded target (unbroken model member)).mp used
    exact ⟨types, model, member, date⟩
  · rintro ⟨types, model, member, date⟩
    exact ⟨model, member,
      (used_packages_of_struct worded target (unbroken model member)).mpr ⟨types, date⟩⟩

end Unbroken

theorem struct_header (target : generator.target = .goStruct) : generator.header? models =
    some (Go.packageClause generator.package ++ Go.importText (Go.structImports models)) := by
  simp only [header?, target]
  rfl

theorem record_header (target : generator.target = .goRecord) : generator.header? models =
    some (Go.packageClause generator.package ++ Go.importText (Go.recordImports models)) := by
  simp only [header?, target]
  rfl

theorem struct_imports_fit (target : generator.target = .goStruct) (someModel : models ≠ [])
    (unbroken : ∀ model ∈ models, generator.Unbroken model) :
    generator.ImportsFit models (Go.importText (Go.structImports models)) where
  header := struct_header target
  text := generate_headed someModel (struct_header target)
  types := by
    rw [Go.import_paths_of_struct, date_type_in_models unbroken (by simp [target]),
      Go.mem_struct_imports]
    exact and_iff_right rfl
  struct := by
    rw [Go.import_paths_of_struct]
    exact fun _ path member => (Go.mem_struct_imports.mp member).1
  record record := absurd (target.symm.trans record) (by decide)
  distinct := by
    rw [Go.import_paths_of_struct]
    exact (Go.imports_nodup models).1
  exact package := by
    rw [Go.import_paths_of_struct, Go.struct_packages_imported,
      date_used_in_models unbroken target]

theorem record_imports_fit (target : generator.target = .goRecord) (someModel : models ≠ []) :
    generator.ImportsFit models (Go.importText (Go.recordImports models)) where
  header := record_header target
  text := generate_headed someModel (record_header target)
  types := by
    have others : Go.typesImport ≠ Go.queryImport ∧ Go.typesImport ≠ Go.coreImport := by decide
    have unbroken : ∀ model ∈ models, generator.Unbroken model :=
      fun _ _ struct => absurd (target.symm.trans struct) (by decide)
    rw [Go.import_paths_of_record, date_type_in_models unbroken (by simp [target]),
      Go.mem_record_imports]
    simp [others]
  struct struct := absurd (target.symm.trans struct) (by decide)
  record _ := by
    have worded := Symbols.of_models_worded models generator.target
    rw [Go.import_paths_of_record]
    simp only [List.forall_mem_cons, Go.mem_record_imports, Go.core_named, Go.query_named,
      used_packages_of_record worded target]
    simp
  distinct := by
    rw [Go.import_paths_of_record]
    exact (Go.imports_nodup models).2
  exact package := by
    have worded := Symbols.of_models_worded models generator.target
    obtain ⟨first, firstMember⟩ := List.exists_mem_of_ne_nil models someModel
    rw [Go.import_paths_of_record, Go.record_packages_imported]
    simp only [used_packages_of_record worded target]
    constructor
    · rintro (core | queries | ⟨types, model, member, date⟩)
      · exact ⟨first, firstMember, Or.inl core⟩
      · exact ⟨first, firstMember, Or.inr (Or.inl queries)⟩
      · exact ⟨model, member, Or.inr (Or.inr ⟨types, date⟩)⟩
    · rintro ⟨model, member, core | queries | ⟨types, date⟩⟩
      · exact Or.inl core
      · exact Or.inr (Or.inl queries)
      · exact Or.inr (Or.inr ⟨types, model, member, date⟩)

/-- A header in Go imports the types of the server if and only if some type of a field, a getter or
a setter is that of dates. Beside it a struct header imports nothing, and a record header imports
two packages that every model uses; so no import is missing and none is unused. For structs this
takes names that do not end their tags. -/
theorem imports_exactly_used (inGo : generator.target ≠ .typeScript) (someModel : models ≠ [])
    (unbroken : ∀ model ∈ models, generator.Unbroken model) :
    ∃ clause, generator.ImportsFit models clause := by
  cases target : generator.target with
  | typeScript => exact absurd target inGo
  | goStruct => exact ⟨_, struct_imports_fit target someModel unbroken⟩
  | goRecord => exact ⟨_, record_imports_fit target someModel⟩

end Headers

def eventModel : Model :=
  ⟨{ name := "events" }, [
    { name := "created", owner := "events", kind := .date, data := .plain },
    { name := "place", owner := "events", kind := .relation, array := true, optional := true,
      data := .relation (.unresolved "pbc_places") }]⟩

def tagModel : Model :=
  ⟨{ name := "tags" }, [{ name := "types", owner := "tags", kind := .text, data := .plain }]⟩

theorem imports_exactly_used_events :
    (∃ clause, (forTarget .goRecord).ImportsFit [tagModel, eventModel] clause ∧
      Go.typesImport ∈ Go.importPaths clause) ∧
    ∃ clause, (forTarget .goStruct).ImportsFit [tagModel] clause ∧ Go.importPaths clause = [] := by
  have record : (forTarget .goRecord).target ≠ .typeScript := by decide
  have struct : (forTarget .goStruct).target ≠ .typeScript := by decide
  have dated : [tagModel, eventModel] ≠ [] := by decide
  have undated : [tagModel] ≠ [] := by decide
  have records : ∀ model ∈ [tagModel, eventModel], (forTarget .goRecord).Unbroken model :=
    fun _ _ struct => absurd struct (by decide)
  have whole : ∀ model ∈ [tagModel], (forTarget .goStruct).Unbroken model :=
    List.forall_mem_singleton.mpr fun _ => by decide
  obtain ⟨clause, fits⟩ := imports_exactly_used record dated records
  obtain ⟨plainClause, plainFits⟩ := imports_exactly_used struct undated whole
  have date : ∃ model ∈ [tagModel, eventModel], model.HasDate :=
    ⟨eventModel, by simp, _, List.mem_cons_self .., rfl⟩
  have noDate : ¬∃ model ∈ [tagModel], model.HasDate := by
    simp [Model.HasDate, tagModel]
  rw [← date_type_in_models records record, ← fits.types] at date
  rw [← date_type_in_models whole struct, ← plainFits.types] at noDate
  refine ⟨⟨clause, fits, date⟩, plainClause, plainFits, ?_⟩
  rw [List.eq_nil_iff_forall_not_mem]
  intro path member
  exact noDate (plainFits.struct rfl path member ▸ member)

/-- A text whose name ends its tag and goes on with a field of its own. -/
def brokenModel : Model :=
  ⟨{ name := "posts" }, [
    { name := "a\x60\n\tB types.DateTime \x60json:\"b", owner := "posts", optional := true,
      kind := .text, data := .plain }]⟩

/-- A field of that kind names a package that the header does not import. -/
theorem broken_tag_unimported :
    let symbols := Symbols.ofModels [brokenModel] .goStruct
    (forTarget .goStruct).header? [brokenModel] = some (Go.packageClause defaultPackage) ∧
      (forTarget .goStruct).usedPackages symbols brokenModel = ["types"] ∧
      (forTarget .goStruct).goTypes symbols brokenModel = ["string", "types.DateTime"] := by
  decide +kernel

end Generator

end CollectionTypes
