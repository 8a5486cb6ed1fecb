import CollectionTypes.Proofs.Generator.TopLevel
import CollectionTypes.Proofs.Generator.TypeSites

/-!
References of an output. Whatever a place names is declared in the same output by the enumeration of
its own field, or by the very collection that the field's relation points to, if that collection is
selected; if it is not, there is a diagnostic. That an undeclared name is declared by nobody else is
not said here.
-/

namespace CollectionTypes

open Naming Outline

namespace Interpretation

variable {pool selected : List Collection} {options : InterpretOptions}

/-- The models of collections that their names tell apart. -/
theorem coherent (distinct : (pool.map (·.name)).Nodup)
    (fromPool : ∀ collection ∈ selected, collection ∈ pool) :
    Coherent (interpret pool options selected).models := by
  refine ⟨?_, ?_⟩
  · intro left leftMember right rightMember same
    obtain ⟨collection, selectedMember, rfl⟩ := List.mem_map.mp leftMember
    obtain ⟨other, otherMember, rfl⟩ := List.mem_map.mp rightMember
    have one : collection = other := List.inj_on_of_nodup_map distinct
      (fromPool collection selectedMember) (fromPool other otherMember) same
    rw [one]
  · intro model member property inModel
    obtain ⟨collection, _, rfl⟩ := List.mem_map.mp member
    obtain ⟨field, _, rfl⟩ := List.mem_map.mp inModel
    rfl

/-- In a pool of distinct names, who has the name of a selected collection is selected. -/
theorem selected_of_name (distinct : (pool.map (·.name)).Nodup)
    (fromPool : ∀ collection ∈ selected, collection ∈ pool) {target : Collection}
    (inPool : target ∈ pool) (named : target.name ∈ selected.map (·.name)) :
    target ∈ selected := by
  obtain ⟨collection, chosen, same⟩ := List.mem_map.mp named
  have one : collection = target := List.inj_on_of_nodup_map distinct
    (fromPool collection chosen) inPool same
  rwa [← one]

theorem reported {collection : Collection} (member : collection ∈ selected) {field : Field}
    (visible : field ∈ visibleFields options collection) {cause : DiagnosticCause}
    (found : causeOf pool (selected.map (·.name)) field = some cause) :
    ⟨collection.name, field.name, cause⟩ ∈ (interpret pool options selected).diagnostics := by
  refine List.mem_flatMap.mpr ⟨collection, member, ?_⟩
  refine List.mem_filterMap.mpr ⟨field, visible, ?_⟩
  rw [found, Option.map_some]

/-- The target of a relation is the first collection of the pool with its identifier. -/
theorem target_of_property {owner : String} {field : Field} (relation : field.kind = .relation) :
    (propertyOf pool owner field).relationTarget? =
      (pool.find? (·.id == field.collectionId)).map (·.name) := by
  simp only [Property.relationTarget?, propertyOf, dataOf, relation, relationOf, nameOfId?]
  cases pool.find? (·.id == field.collectionId) <;> rfl

theorem relation_of_target {owner name : String} {field : Field}
    (target : (propertyOf pool owner field).relationTarget? = some name) :
    field.kind = .relation := by
  cases kind : field.kind with
  | relation => rfl
  | text | number | boolean | json | file | enumeration | date =>
      simp [Property.relationTarget?, propertyOf, dataOf, kind] at target

theorem cause_of_relation {names : List String} {field : Field}
    (relation : field.kind = .relation) :
    causeOf pool names field = match pool.find? (·.id == field.collectionId) with
      | some target =>
          if names.contains target.name then none else some (.targetNotSelected target.name)
      | none => some (.unresolvedRelation field.collectionId) := by
  simp only [causeOf, relation, relationOf, nameOfId?]
  cases pool.find? (·.id == field.collectionId) <;> rfl

theorem untargeted_of_cause {names : List String} {field : Field} {id : String}
    (found : causeOf pool names field = some (.unresolvedRelation id)) (owner : String) :
    field.kind = .relation ∧ (propertyOf pool owner field).relationTarget? = none := by
  have relation : field.kind = .relation := by
    unfold causeOf at found
    split at found
    · split at found <;> simp at found
    · assumption
    · contradiction
  refine ⟨relation, ?_⟩
  rw [target_of_property relation]
  rw [cause_of_relation relation] at found
  split at found
  · split at found <;> simp at found
  · rename_i missing
    rw [missing, Option.map_none]

end Interpretation

namespace Generator

def Declares (generator : Generator) (models : List Model) (claimant : Claimant)
    (name : String) : Prop :=
  (∃ entry ∈ generator.fileOutline models, entry.1 = claimant ∧ name ∈ declaredIn entry.2) ∧
    ∀ entry ∈ generator.fileOutline models, name ∈ declaredIn entry.2 → entry.1 = claimant

section Declares

variable {generator : Generator} {models : List Model}

theorem declared_in_group {entry : Claimant × String}
    (member : entry ∈ generator.fileOutline models) {name : String}
    (declared : name ∈ declaredIn entry.2) :
    entry.1 ∈ Claimant.ofModels models ∧
      name ∈ entry.1.group generator.target (Symbols.ofModels models generator.target) := by
  obtain ⟨model, modelMember, outlined⟩ := file_outline_members member
  have worded := Symbols.of_models_worded models generator.target
  exact ⟨outline_claimant modelMember outlined,
    declared_names_in_group worded generator model entry outlined name declared⟩

theorem declares_of_entry (coherent : Coherent models) {entry : Claimant × String}
    (member : entry ∈ generator.fileOutline models) {name : String}
    (declared : name ∈ declaredIn entry.2) : generator.Declares models entry.1 name := by
  refine ⟨⟨entry, member, rfl, declared⟩, ?_⟩
  intro other otherMember otherDeclared
  obtain ⟨claimant, inGroup⟩ := declared_in_group member declared
  obtain ⟨otherClaimant, inOther⟩ := declared_in_group otherMember otherDeclared
  exact Symbols.groups_apart coherent otherClaimant claimant inOther inGroup

theorem declares_enumeration (coherent : Coherent models) {model : Model}
    (member : model ∈ models) {property : Property} (enum : property ∈ model.distinctEnums) :
    generator.Declares models (.enumeration property)
      ((Symbols.ofModels models generator.target).enumName property) := by
  let symbols := Symbols.ofModels models generator.target
  have worded := Symbols.of_models_worded models generator.target
  have entry : (Claimant.enumeration property, generator.enumBlock symbols property) ∈
      generator.fileOutline models :=
    List.mem_flatMap.mpr ⟨model, member, List.mem_append_left _ (List.mem_map_of_mem enum)⟩
  apply declares_of_entry coherent entry
  rw [declared_in_enum_block worded]
  cases target : generator.target <;>
    simp [Claimant.group, Claimant.declares, Target.enumDeclarations, Claimant.name,
      Claimant.name?, Claimant.stem, Symbols.enumName]

theorem declares_collection (coherent : Coherent models) {model : Model}
    (member : model ∈ models) {name : String}
    (rendered : name ∈ renderedGroup generator.target
      (Symbols.ofModels models generator.target) model) :
    generator.Declares models (.collection model.name) name := by
  let symbols := Symbols.ofModels models generator.target
  have worded := Symbols.of_models_worded models generator.target
  have declared := (declared_in_collection_blocks worded generator model).symm.subset rendered
  obtain ⟨block, blockMember, inBlock⟩ := List.mem_flatMap.mp declared
  have entry : (Claimant.collection model.name, block) ∈ generator.fileOutline models :=
    List.mem_flatMap.mpr ⟨model, member, List.mem_append_right _ (List.mem_map_of_mem blockMember)⟩
  exact declares_of_entry coherent entry inBlock

theorem referenced_in_group {symbols : Symbols} {property : Property} {model : Model}
    (relation : property.isRelation = true) (target : property.relationTarget? = some model.name)
    {name : String} (referenced : name ∈ symbols.referenced generator.target property) :
    name ∈ renderedGroup generator.target symbols model := by
  have kind : property.kind = .relation := eq_of_beq relation
  simp only [Symbols.referenced, kind, target] at referenced
  cases language : generator.target with
  | typeScript | goStruct =>
      simp only [language, reduceCtorEq, if_false] at referenced
      rw [List.mem_singleton.mp referenced]
      exact List.mem_cons_self ..
  | goRecord =>
      simp only [language, if_true, List.mem_cons, List.not_mem_nil, or_false] at referenced
      rcases referenced with rfl | rfl <;>
        simp [renderedGroup, Target.collectionDeclarations]

end Declares

/-- What a name may stand for at a place of a field: the enumeration of that field, or the
collection that its relation points to; a collection that is not selected is reported instead. -/
def Accounted (generator : Generator) (pool selected : List Collection) (collection : Collection)
    (field : Field) (name : String) : Prop :=
  let interpretation := generator.interpret selected pool
  (field.kind = .enumeration ∧
    ∃ declared, Symbols.enumKey declared = (collection.name, field.name) ∧
      generator.Declares interpretation.models (.enumeration declared) name) ∨
  (field.kind = .relation ∧
    ∃ target, pool.find? (·.id == field.collectionId) = some target ∧
      (target ∈ selected ∧
          generator.Declares interpretation.models (.collection target.name) name ∨
        target ∉ selected ∧ ⟨collection.name, field.name, .targetNotSelected target.name⟩ ∈
          interpretation.diagnostics))

section Closed

variable {pool selected : List Collection} (distinct : (pool.map (·.name)).Nodup)
  (fromPool : ∀ collection ∈ selected, collection ∈ pool)

include distinct fromPool

theorem enumeration_accounted (generator : Generator) {collection : Collection}
    (member : collection ∈ selected) {field : Field}
    (visible : field ∈
      Interpretation.visibleFields generator.target.interpretOptions collection)
    (enum : field.kind = .enumeration) :
    generator.Accounted pool selected collection field
      ((Symbols.ofModels (generator.interpret selected pool).models generator.target).enumName
        (Interpretation.propertyOf pool collection.name field)) := by
  let property := Interpretation.propertyOf pool collection.name field
  let model := Interpretation.modelOf pool generator.target.interpretOptions collection
  have coherent : Coherent (generator.interpret selected pool).models :=
    Interpretation.coherent distinct fromPool
  have modelMember : model ∈ (generator.interpret selected pool).models :=
    List.mem_map_of_mem member
  have inModel : property ∈ model.properties := List.mem_map_of_mem visible
  obtain ⟨declared, declaredMember, sameName⟩ := Model.distinct_enums_cover inModel
    (show property.isEnumeration = true by simp [property, Property.isEnumeration,
      Interpretation.propertyOf, enum])
  have owner := coherent.owned model modelMember declared
    (Model.distinct_enums_mem declaredMember).1
  have sameKey : Symbols.enumKey declared = Symbols.enumKey property := by
    rw [Symbols.enumKey, owner, sameName]
    rfl
  left
  refine ⟨enum, declared, sameKey, ?_⟩
  rw [← Symbols.enum_name_of_key sameKey]
  exact declares_enumeration coherent modelMember declaredMember

theorem relation_accounted (generator : Generator) {collection : Collection}
    (member : collection ∈ selected) {field : Field}
    (visible : field ∈
      Interpretation.visibleFields generator.target.interpretOptions collection)
    (relation : field.kind = .relation) {name : String}
    (referenced : name ∈
      (Symbols.ofModels (generator.interpret selected pool).models generator.target).referenced
        generator.target (Interpretation.propertyOf pool collection.name field)) :
    generator.Accounted pool selected collection field name := by
  let property := Interpretation.propertyOf pool collection.name field
  have isRelation : property.isRelation = true := by
    simp [property, Property.isRelation, Interpretation.propertyOf, relation]
  have coherent : Coherent (generator.interpret selected pool).models :=
    Interpretation.coherent distinct fromPool
  have targetName : property.relationTarget? =
      (pool.find? (·.id == field.collectionId)).map (·.name) :=
    Interpretation.target_of_property relation
  right
  refine ⟨relation, ?_⟩
  cases found : pool.find? (·.id == field.collectionId) with
  | none =>
      rw [found, Option.map_none] at targetName
      rcases Symbols.referenced_cases referenced with ⟨enum, _⟩ | ⟨_, _, targeted⟩
      · rw [show field.kind = .enumeration from enum] at relation
        contradiction
      · rw [targetName] at targeted
        contradiction
  | some target =>
      rw [found, Option.map_some] at targetName
      refine ⟨target, rfl, ?_⟩
      by_cases chosen : target ∈ selected
      · left
        refine ⟨chosen, ?_⟩
        let model := Interpretation.modelOf pool generator.target.interpretOptions target
        have modelMember : model ∈ (generator.interpret selected pool).models :=
          List.mem_map_of_mem chosen
        have targeted : property.relationTarget? = some model.name := targetName
        have inGroup : name ∈ renderedGroup generator.target _ model :=
          referenced_in_group isRelation targeted referenced
        exact declares_collection coherent modelMember inGroup
      · right
        refine ⟨chosen, Interpretation.reported member visible ?_⟩
        have unnamed : target.name ∉ selected.map (·.name) := fun named =>
          chosen (Interpretation.selected_of_name distinct fromPool
            (List.mem_of_find?_eq_some found) named)
        rw [Interpretation.cause_of_relation relation, found]
        simp [unnamed]

/-- Every place stands in a block, and its names are accounted for, with all that its property
refers to; a relation of no known target is written as an identifier or as an object of no type,
with nothing named. -/
theorem references_closed (generator : Generator) :
    let symbols := Symbols.ofModels (generator.interpret selected pool).models generator.target
    ∀ model ∈ (generator.interpret selected pool).models, model.collection ∈ selected ∧
      ∀ site ∈ generator.typeSites symbols model,
        (∃ block ∈ generator.blocks symbols model,
          site.StandsIn (symbols.typeName model.name) block generator.target) ∧
        ∃ field ∈ model.collection.fields,
          site.property = Interpretation.propertyOf pool model.name field ∧
          (∀ name ∈ site.names generator.target ++
              symbols.referenced generator.target site.property,
            generator.Accounted pool selected model.collection field name) ∧
          ∀ id, Interpretation.causeOf pool (selected.map (·.name)) field =
              some (.unresolvedRelation id) →
            ⟨model.name, field.name, .unresolvedRelation id⟩ ∈
                (generator.interpret selected pool).diagnostics ∧
              site.names generator.target = [] ∧
              (site.type ∈ opaqueTypes generator.target ∨ generator.writesIdentifiers = true ∧
                site.type ∈ identifierTypes generator.target) := by
  intro symbols model member
  have worded : symbols.Worded := Symbols.of_models_worded _ generator.target
  obtain ⟨collection, chosen, rfl⟩ := List.mem_map.mp member
  refine ⟨chosen, ?_⟩
  intro site siteMember
  refine ⟨type_sites_written siteMember, ?_⟩
  obtain ⟨property, inModel, found⟩ := site_of_type_sites siteMember
  obtain ⟨field, visible, rfl⟩ := List.mem_map.mp inModel
  obtain ⟨sameProperty, names⟩ := site_names worded found
  have shown : field ∈ collection.fields := (List.mem_filter.mp visible).1
  refine ⟨field, shown, sameProperty, ?_, ?_⟩
  · intro name inSite
    have referenced : name ∈ symbols.referenced generator.target
        (Interpretation.propertyOf pool collection.name field) :=
      (List.mem_append.mp inSite).elim (names name) fun referenced => sameProperty ▸ referenced
    rcases Symbols.referenced_cases referenced with ⟨enum, rfl⟩ | ⟨relation, _⟩
    · exact enumeration_accounted distinct fromPool generator chosen visible enum
    · exact relation_accounted distinct fromPool generator chosen visible relation referenced
  · intro id unresolved
    obtain ⟨relation, untargeted⟩ := Interpretation.untargeted_of_cause unresolved collection.name
    refine ⟨Interpretation.reported chosen visible unresolved, ?_, ?_⟩
    · refine List.eq_nil_iff_forall_not_mem.mpr fun name inSite => ?_
      rcases Symbols.referenced_cases (names name inSite) with ⟨enum, _⟩ | ⟨_, _, targeted⟩
      · rw [show field.kind = .enumeration from enum] at relation
        contradiction
      · rw [untargeted] at targeted
        contradiction
    · have isRelation : (Interpretation.propertyOf pool collection.name field).isRelation =
          true := by simp [Property.isRelation, Interpretation.propertyOf, relation]
      exact untargeted_site found isRelation untargeted

end Closed

def crowdedPool : List Collection := [
    { id := "1", name := "blog_posts", fields := [
      { name := "state", typeTag := "select", values := ["draft", "live"] },
      { name := "twin", typeTag := "relation", collectionId := "2" },
      { name := "author", typeTag := "relation", collectionId := "3" },
      { name := "lost", typeTag := "relation", collectionId := "4" }] },
    { id := "2", name := "blogPosts" },
    { id := "3", name := "authors" }
  ]

def crowdedModels : List Model :=
  ((forTarget .typeScript).interpret (crowdedPool.take 2) crowdedPool).models

theorem references_closed_crowded :
    (crowdedPool.map (·.name)).Nodup ∧
      (∀ collection ∈ crowdedPool.take 2, collection ∈ crowdedPool) ∧
      ∃ model ∈ crowdedModels, ∃ site ∈ (forTarget .typeScript).typeSites
          (Symbols.ofModels crowdedModels .typeScript) model,
        site.names .typeScript = ["BlogPosts2"] ∧ ∃ field ∈ model.collection.fields,
          (forTarget .typeScript).Accounted crowdedPool (crowdedPool.take 2) model.collection
            field "BlogPosts2" := by
  have distinct : (crowdedPool.map (·.name)).Nodup := by decide
  have fromPool : ∀ collection ∈ crowdedPool.take 2, collection ∈ crowdedPool := by decide
  have named : ∃ model ∈ crowdedModels, ∃ site ∈ (forTarget .typeScript).typeSites
      (Symbols.ofModels crowdedModels .typeScript) model,
      site.names .typeScript = ["BlogPosts2"] := by
    decide +kernel
  obtain ⟨model, member, site, siteMember, names⟩ := named
  obtain ⟨_, closed⟩ :=
    references_closed distinct fromPool (forTarget .typeScript) model member
  obtain ⟨_, field, shown, _, accounted, _⟩ := closed site siteMember
  have inSite : "BlogPosts2" ∈ site.names .typeScript ++
      (Symbols.ofModels crowdedModels .typeScript).referenced .typeScript site.property :=
    List.mem_append_left _ (by simp [names])
  exact ⟨distinct, fromPool, model, member, site, siteMember, names, field, shown,
    accounted "BlogPosts2" inSite⟩

end Generator

end CollectionTypes
