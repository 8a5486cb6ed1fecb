import CollectionTypes.Generator.Basic
import CollectionTypes.Proofs.Property.Diagnostics

/-!
Hidden fields leave no trace in types and structs. A model still carries the collection it was made
of, hidden fields and all, so that two things are shown: the interpretation skips these fields, and
nothing that is generated reads more of a model than its name and its properties. Record types do
reach hidden fields, and are left out.
-/

namespace CollectionTypes

def Collection.shown (collection : Collection) : Collection :=
  { collection with fields := collection.fields.filter fun field => !field.hidden }

def SameShown (left right : List Collection) : Prop :=
  left.map Collection.shown = right.map Collection.shown

instance (left right : List Collection) : Decidable (SameShown left right) :=
  inferInstanceAs (Decidable (_ = _))

def Model.bare (model : Model) : Model := ⟨{ name := model.name }, model.properties⟩

namespace Interpretation

variable {pool : List Collection} {options : InterpretOptions} {names : List String}

theorem shown_same_names (pool : List Collection) : SameNames (pool.map Collection.shown) pool := by
  simp [SameNames, Collection.shown, Function.comp_def]

/-- A hidden field comes to nothing. -/
theorem outcomes_of_shown (hides : options.includeHidden = false) (collection : Collection) :
    collection.shown.fields.filterMap (outcomeOf pool options names collection.name) =
      collection.fields.filterMap (outcomeOf pool options names collection.name) := by
  rw [Collection.shown, List.filterMap_filter]
  refine List.filterMap_congr fun field _ => ?_
  cases hidden : field.hidden <;> simp [outcomeOf, InterpretOptions.skips, hides, hidden]

theorem interpret_of_shown (hides : options.includeHidden = false)
    (pool selected : List Collection) :
    (interpret (pool.map Collection.shown) options (selected.map Collection.shown)).models.map
        Model.bare = (interpret pool options selected).models.map Model.bare ∧
      (interpret (pool.map Collection.shown) options
        (selected.map Collection.shown)).diagnostics =
        (interpret pool options selected).diagnostics := by
  have sameNames : (selected.map Collection.shown).map (·.name) = selected.map (·.name) := by
    simp [Collection.shown, Function.comp_def]
  have outcome : outcomeOf (pool.map Collection.shown) options (selected.map (·.name)) =
      outcomeOf pool options (selected.map (·.name)) := by
    funext owner field
    exact outcome_of_same_names (shown_same_names pool) owner field
  have fields (collection : Collection) :
      collection.shown.fields.filterMap
          (outcomeOf pool options (selected.map (·.name)) collection.name) =
        collection.fields.filterMap
          (outcomeOf pool options (selected.map (·.name)) collection.name) :=
    outcomes_of_shown hides collection
  simp only [interpret_eq_outcomes, sameNames, outcome]
  constructor
  · simp only [List.map_map]
    refine List.map_congr_left fun collection _ => ?_
    exact congrArg (fun outcomes => Model.bare ⟨collection, outcomes.map (·.1)⟩)
      (fields collection)
  · rw [List.flatMap_map]
    refine List.flatMap_congr fun collection _ => ?_
    exact congrArg (List.filterMap (·.2)) (fields collection)

end Interpretation

namespace Generator

variable (generator : Generator)

theorem allocation_of_bare (models : List Model) (target : Target) :
    Allocation.ofModels (models.map Model.bare) target = Allocation.ofModels models target := by
  have names : (models.map Model.bare).map (·.name) = models.map (·.name) := by
    rw [List.map_map]
    rfl
  have enums : (models.map Model.bare).flatMap (·.distinctEnums) =
      models.flatMap (·.distinctEnums) := by
    rw [List.flatMap_map]
    rfl
  simp only [Allocation.ofModels, names, enums]

theorem symbols_of_bare (models : List Model) (target : Target) :
    Symbols.ofModels (models.map Model.bare) target = Symbols.ofModels models target :=
  congrArg (·.symbols) (allocation_of_bare models target)

theorem blocks_of_bare (symbols : Symbols) (model : Model) :
    generator.blocks symbols model.bare = generator.blocks symbols model := by
  cases target : generator.target <;> simp only [blocks, target] <;> rfl

theorem header_of_bare (models : List Model) :
    generator.header? (models.map Model.bare) = generator.header? models := by
  have dates : Go.usesDates (models.map Model.bare) = Go.usesDates models := by
    rw [Go.usesDates, List.any_map]
    rfl
  cases target : generator.target <;>
    simp only [header?, target, Go.structImports, Go.recordImports, dates]

/-- A text is written from names and properties alone. -/
theorem generate_of_bare (models : List Model) :
    generator.generate (models.map Model.bare) = generator.generate models := by
  have rendered (symbols : Symbols) : (models.map Model.bare).map (generator.renderWith symbols) =
      models.map (generator.renderWith symbols) := by
    rw [List.map_map]
    exact List.map_congr_left fun model _ =>
      congrArg joinBlocks (generator.blocks_of_bare symbols model)
  simp only [generate, List.isEmpty_map, symbols_of_bare, header_of_bare, rendered]

theorem warnings_of_bare (models : List Model) :
    generator.warnings (models.map Model.bare) = generator.warnings models := by
  have perModel : (models.map Model.bare).flatMap (modelWarnings generator.target) =
      models.flatMap (modelWarnings generator.target) := by
    rw [List.flatMap_map]
    cases generator.target <;> rfl
  simp only [warnings, List.isEmpty_map, allocation_of_bare, perModel]

/-- Two generations that nothing they tell sets apart: their texts with all names and imports, their
diagnostics and their warnings. -/
structure SameOutput (selected pool otherSelected otherPool : List Collection) : Prop where
  text : generator.generateCollections selected pool =
    generator.generateCollections otherSelected otherPool
  diagnostics : (generator.interpret selected pool).diagnostics =
    (generator.interpret otherSelected otherPool).diagnostics
  names : Symbols.ofModels (generator.interpret selected pool).models generator.target =
    Symbols.ofModels (generator.interpret otherSelected otherPool).models generator.target
  header : generator.header? (generator.interpret selected pool).models =
    generator.header? (generator.interpret otherSelected otherPool).models
  warnings : generator.warnings (generator.interpret selected pool).models =
    generator.warnings (generator.interpret otherSelected otherPool).models

variable {generator}

theorem same_output_of_bare {selected pool otherSelected otherPool : List Collection}
    (models : (generator.interpret selected pool).models.map Model.bare =
      (generator.interpret otherSelected otherPool).models.map Model.bare)
    (diagnostics : (generator.interpret selected pool).diagnostics =
      (generator.interpret otherSelected otherPool).diagnostics) :
    generator.SameOutput selected pool otherSelected otherPool where
  text := by
    rw [generateCollections, ← generate_of_bare, models, generate_of_bare, generateCollections]
  diagnostics := diagnostics
  names := by rw [← symbols_of_bare, models, symbols_of_bare]
  header := by rw [← header_of_bare, models, header_of_bare]
  warnings := by rw [← warnings_of_bare, models, warnings_of_bare]

/-- Hidden fields may be deleted, or replaced by any other hidden fields, in the whole pool and in
what is selected, and types and structs are generated as before. -/
theorem hidden_fields_unseen (generator : Generator) (shows : generator.target ≠ .goRecord)
    (pool selected : List Collection) :
    generator.SameOutput (selected.map Collection.shown) (pool.map Collection.shown)
        selected pool ∧
      ∀ otherPool otherSelected, SameShown otherPool pool → SameShown otherSelected selected →
        generator.SameOutput otherSelected otherPool selected pool := by
  have hides : generator.target.interpretOptions.includeHidden = false := by
    cases target : generator.target with
    | typeScript | goStruct => rfl
    | goRecord => exact absurd target shows
  have deleted (chosen whole : List Collection) :=
    Interpretation.interpret_of_shown hides whole chosen
  constructor
  · exact same_output_of_bare (deleted selected pool).1 (deleted selected pool).2
  · intro otherPool otherSelected samePool sameSelected
    have other := deleted otherSelected otherPool
    rw [samePool, sameSelected] at other
    exact same_output_of_bare (other.1.symm.trans (deleted selected pool).1)
      (other.2.symm.trans (deleted selected pool).2)

def guardedPosts : Collection :=
  { id := "1", name := "posts", fields := [
    { name := "state", typeTag := "select", values := ["key"], hidden := true },
    { name := "state", typeTag := "select", values := ["draft", "live"] },
    { name := "expand", typeTag := "relation", collectionId := "9", hidden := true },
    { name := "since", typeTag := "date", hidden := true }] }

def otherwiseGuardedPosts : Collection :=
  { guardedPosts with fields := [
    { name := "state", typeTag := "select", values := ["draft", "live"] },
    { name := "State", typeTag := "select", hidden := true }] }

theorem hidden_fields_unseen_guarded :
    (forTarget .goStruct).target ≠ .goRecord ∧
      SameShown [otherwiseGuardedPosts] [guardedPosts] ∧
      (forTarget .goStruct).SameOutput [otherwiseGuardedPosts] [otherwiseGuardedPosts]
        [guardedPosts] [guardedPosts] ∧
      (forTarget .goRecord).generateCollections [otherwiseGuardedPosts] [otherwiseGuardedPosts] ≠
        (forTarget .goRecord).generateCollections [guardedPosts] [guardedPosts] := by
  have shows : (forTarget .goStruct).target ≠ .goRecord := by decide
  have same : SameShown [otherwiseGuardedPosts] [guardedPosts] := by decide
  have unseen := hidden_fields_unseen (forTarget .goStruct) shows [guardedPosts] [guardedPosts]
  exact ⟨shows, same, unseen.2 _ _ same same, by decide +kernel⟩

end Generator

end CollectionTypes
