import CollectionTypes.Proofs.Generator.References

/-!
Relations to collections that are not selected. Such a target has no symbol of its own, so that its
plain name is written, and the relation is reported; the namespace of the output knows nothing of
that name. It can therefore be the name of another declaration, but only of one whose own stem, with
or without a suffix, gives it.
-/

namespace CollectionTypes.Generator

open Naming Outline

def plainNames (target : Target) (collection : String) : List String :=
  Go.exportedName collection ::
    if target = .goRecord then [Target.wrapName (Go.exportedName collection)] else []

def Renders (generator : Generator) (models : List Model) (name : String) : Prop :=
  let symbols := Symbols.ofModels models generator.target
  ∃ model ∈ models, name ∈ renderedGroup generator.target symbols model ∨
    ∃ property ∈ model.distinctEnums,
      name ∈ (Claimant.enumeration property).group generator.target symbols

theorem declared_iff_renders (generator : Generator) (models : List Model) (name : String) :
    (∃ entry ∈ generator.fileOutline models, name ∈ declaredIn entry.2) ↔
      generator.Renders models name := by
  have worded := Symbols.of_models_worded models generator.target
  have perModel (model : Model) :
      (∃ entry ∈ generator.outline (Symbols.ofModels models generator.target) model,
        name ∈ declaredIn entry.2) ↔
      name ∈ renderedGroup generator.target (Symbols.ofModels models generator.target) model ∨
        ∃ property ∈ model.distinctEnums, name ∈ (Claimant.enumeration property).group
          generator.target (Symbols.ofModels models generator.target) := by
    rw [← List.mem_flatMap, (declared_in_outline worded generator model).mem_iff,
      List.mem_append, List.mem_flatMap]
    exact or_comm
  constructor
  · rintro ⟨entry, member, declared⟩
    obtain ⟨model, modelMember, outlined⟩ := file_outline_members member
    exact ⟨model, modelMember, (perModel model).mp ⟨entry, outlined, declared⟩⟩
  · rintro ⟨model, modelMember, rendered⟩
    obtain ⟨entry, outlined, declared⟩ := (perModel model).mpr rendered
    exact ⟨entry, List.mem_flatMap.mpr ⟨model, modelMember, outlined⟩, declared⟩

/-- A declared name is made of the stem of its claimant. -/
theorem declared_from_stem {generator : Generator} {models : List Model}
    (coherent : Coherent models) {entry : Claimant × String}
    (member : entry ∈ generator.fileOutline models) {name : String}
    (declared : name ∈ declaredIn entry.2) :
    ∃ suffix, 1 ≤ suffix ∧ name ∈ entry.1.declares generator.target
      (Namespace.candidate entry.1.stem suffix) := by
  obtain ⟨claimant, inGroup⟩ := declared_in_group member declared
  obtain ⟨suffix, positive, named⟩ :=
    Symbols.name_of_claimant coherent generator.target claimant
  refine ⟨suffix, positive, ?_⟩
  rwa [Claimant.group, named] at inGroup

section Unselected

variable {pool selected : List Collection} (distinct : (pool.map (·.name)).Nodup)
  (fromPool : ∀ collection ∈ selected, collection ∈ pool)

include distinct fromPool

theorem unselected_unknown {target : Collection} (inPool : target ∈ pool)
    (unselected : target ∉ selected) (generator : Generator) :
    ∀ model ∈ (generator.interpret selected pool).models, model.name ≠ target.name := by
  intro model member same
  obtain ⟨collection, chosen, rfl⟩ := List.mem_map.mp member
  have named : target.name ∈ selected.map (·.name) := same ▸ List.mem_map_of_mem chosen
  exact unselected (Interpretation.selected_of_name distinct fromPool inPool named)

theorem referenced_of_unselected {target : Collection} (inPool : target ∈ pool)
    (unselected : target ∉ selected) (generator : Generator) {property : Property}
    (relation : property.kind = .relation)
    (targeted : property.relationTarget? = some target.name) :
    (Symbols.ofModels (generator.interpret selected pool).models generator.target).referenced
      generator.target property = plainNames generator.target target.name := by
  have plain := Symbols.type_name_of_unknown generator.target
    (unselected_unknown distinct fromPool inPool unselected generator)
  simp only [Symbols.referenced, relation, targeted, plain, plainNames]

theorem unselected_reported {collection target : Collection} (chosen : collection ∈ selected)
    (inPool : target ∈ pool) (unselected : target ∉ selected) {options : InterpretOptions}
    {field : Field} (visible : field ∈ Interpretation.visibleFields options collection)
    (targeted : (Interpretation.propertyOf pool collection.name field).relationTarget? =
      some target.name) :
    ⟨collection.name, field.name, .targetNotSelected target.name⟩ ∈
      (CollectionTypes.interpret pool options selected).diagnostics := by
  have relation := Interpretation.relation_of_target targeted
  rw [Interpretation.target_of_property relation] at targeted
  obtain ⟨found, isFound, sameName⟩ := Option.map_eq_some_iff.mp targeted
  have unnamed : target.name ∉ selected.map (·.name) := fun named =>
    unselected (Interpretation.selected_of_name distinct fromPool inPool named)
  apply Interpretation.reported chosen visible
  rw [Interpretation.cause_of_relation relation, isFound]
  simp [sameName, unnamed]

/-- An unselected target goes by its plain name and is reported. That name is declared exactly if
a selected collection or an enumeration renders it, and then it is made of the stem of that
claimant. -/
theorem unselected_target_names (generator : Generator) :
    ∀ model ∈ (generator.interpret selected pool).models,
      ∀ site ∈ generator.typeSites
          (Symbols.ofModels (generator.interpret selected pool).models generator.target) model,
        ∀ target ∈ pool, target ∉ selected →
          site.property.relationTarget? = some target.name →
        ⟨model.name, site.property.name, .targetNotSelected target.name⟩ ∈
            (generator.interpret selected pool).diagnostics ∧
          (∀ name ∈ site.names generator.target, name ∈ plainNames generator.target target.name) ∧
          ∀ name ∈ plainNames generator.target target.name,
            ((∃ entry ∈ generator.fileOutline (generator.interpret selected pool).models,
                name ∈ declaredIn entry.2) ↔
              generator.Renders (generator.interpret selected pool).models name) ∧
            ∀ entry ∈ generator.fileOutline (generator.interpret selected pool).models,
              name ∈ declaredIn entry.2 → ∃ suffix, 1 ≤ suffix ∧
                name ∈ entry.1.declares generator.target
                  (Namespace.candidate entry.1.stem suffix) := by
  have worded := Symbols.of_models_worded (generator.interpret selected pool).models
    generator.target
  have coherent : Coherent (generator.interpret selected pool).models :=
    Interpretation.coherent distinct fromPool
  intro model member site siteMember target inPool unselected targeted
  obtain ⟨collection, chosen, rfl⟩ := List.mem_map.mp member
  obtain ⟨property, inModel, found⟩ := site_of_type_sites siteMember
  obtain ⟨field, visible, rfl⟩ := List.mem_map.mp inModel
  obtain ⟨sameProperty, names⟩ := site_names worded found
  rw [sameProperty] at targeted ⊢
  have relation := Interpretation.relation_of_target targeted
  refine ⟨unselected_reported distinct fromPool chosen inPool unselected visible targeted, ?_, ?_⟩
  · intro name inSite
    have referenced := names name inSite
    rwa [referenced_of_unselected distinct fromPool inPool unselected generator relation targeted]
      at referenced
  · intro name _
    refine ⟨generator.declared_iff_renders _ name, ?_⟩
    intro entry entryMember declared
    exact declared_from_stem coherent entryMember declared

end Unselected

theorem unselected_target_names_crowded :
    (crowdedPool.map (·.name)).Nodup ∧
      (∀ collection ∈ crowdedPool.take 2, collection ∈ crowdedPool) ∧
      ∃ model ∈ crowdedModels, ∃ site ∈ (forTarget .typeScript).typeSites
          (Symbols.ofModels crowdedModels .typeScript) model,
        ∃ target ∈ crowdedPool, target ∉ crowdedPool.take 2 ∧
          site.property.relationTarget? = some target.name ∧
          ⟨model.name, site.property.name, .targetNotSelected target.name⟩ ∈
            ((forTarget .typeScript).interpret (crowdedPool.take 2) crowdedPool).diagnostics ∧
          ∀ name ∈ site.names .typeScript, name ∈ plainNames .typeScript target.name := by
  have distinct : (crowdedPool.map (·.name)).Nodup := by decide
  have fromPool : ∀ collection ∈ crowdedPool.take 2, collection ∈ crowdedPool := by decide
  have pointed : ∃ model ∈ crowdedModels, ∃ site ∈ (forTarget .typeScript).typeSites
      (Symbols.ofModels crowdedModels .typeScript) model,
        ∃ target ∈ crowdedPool, target ∉ crowdedPool.take 2 ∧
          site.property.relationTarget? = some target.name := by
    decide +kernel
  obtain ⟨model, member, site, siteMember, target, inPool, unselected, targeted⟩ := pointed
  obtain ⟨reported, plain, _⟩ := unselected_target_names distinct fromPool
    (forTarget .typeScript) model member site siteMember target inPool unselected targeted
  exact ⟨distinct, fromPool, model, member, site, siteMember, target, inPool, unselected,
    targeted, reported, plain⟩

/-- Two collections of one plain name, of which the first points to the second. -/
def twinPool : List Collection := [
    { id := "1", name := "blog_posts",
      fields := [{ name := "twin", typeTag := "relation", collectionId := "2" }] },
    { id := "2", name := "blogPosts" }
  ]

def twinModels : List Model := ((forTarget .typeScript).interpret (twinPool.take 1) twinPool).models

/-- The first collection's own type stands where the second is meant. -/
theorem unselected_target_captured :
    (twinPool.map (·.name)).Nodup ∧ (twinPool.map (·.id)).Nodup ∧
      "blogPosts" ∉ (twinPool.take 1).map (·.name) ∧
      ∃ model ∈ twinModels, ∃ site ∈ (forTarget .typeScript).typeSites
          (Symbols.ofModels twinModels .typeScript) model,
        site.property.relationTarget? = some "blogPosts" ∧
          ∃ name ∈ site.names .typeScript,
            (forTarget .typeScript).Declares twinModels (.collection "blog_posts") name := by
  unfold Declares
  decide +kernel

end CollectionTypes.Generator
