import CollectionTypes.Proofs.Generator.Symbols

/-!
Names that stay. Collections get their names before any enumeration does, and in order, so that the
names of some collections are settled before those of any later one are looked for. Enumerations
come last and are not promised anything: a collection that is added can take the name of one.
-/

namespace CollectionTypes

namespace Allocation

/-- A step forgets no type. -/
theorem add_keeps_types (target : Target) (allocation : Allocation) (claimant : Claimant) :
    allocation.symbols.types <+: (allocation.add target claimant).symbols.types := by
  cases claimant with
  | collection collection =>
      simp only [add, addCollection]
      split
      · exact List.prefix_refl _
      · exact List.prefix_append _ _
  | enumeration property =>
      simp only [add, addEnum]
      split <;> exact List.prefix_refl _

theorem run_keeps_types (target : Target) (allocation : Allocation) (claimants : List Claimant) :
    allocation.symbols.types <+: (claimants.foldl (add target) allocation).symbols.types := by
  induction claimants generalizing allocation with
  | nil => exact List.prefix_refl _
  | cons claimant claimants induction =>
      exact (add_keeps_types target allocation claimant).trans (induction _)

/-- Enumerations leave the types as they are. -/
theorem enumerations_keep_types (target : Target) (allocation : Allocation)
    (enumerations : List Property) :
    ((enumerations.map Claimant.enumeration).foldl (add target) allocation).symbols.types =
      allocation.symbols.types := by
  induction enumerations generalizing allocation with
  | nil => rfl
  | cons property enumerations induction =>
      have step : (allocation.add target (.enumeration property)).symbols.types =
          allocation.symbols.types := by
        simp only [add, addEnum]
        split <;> rfl
      rw [List.map_cons, List.foldl_cons, induction, step]

end Allocation

namespace Symbols

theorem types_of_collections (models : List Model) (target : Target) :
    (ofModels models target).types = ((models.map fun model => Claimant.collection model.name).foldl
      (Allocation.add target) {}).symbols.types := by
  rw [ofModels, Allocation.of_models_eq_run, Claimant.ofModels, List.foldl_append,
    Allocation.enumerations_keep_types]

theorem types_of_append (models more : List Model) (target : Target) :
    (ofModels models target).types <+: (ofModels (models ++ more) target).types := by
  rw [types_of_collections, types_of_collections, List.map_append, List.foldl_append]
  exact Allocation.run_keeps_types target _ _

/-- Every collection of the models has a type of its own. -/
theorem type_known {models : List Model} {model : Model} (member : model ∈ models)
    (target : Target) : ∃ name, (ofModels models target).typeName? model.name = some name := by
  obtain ⟨claimed, sound, _, covered⟩ := Allocation.run_sound target (Claimant.ofModels models)
  rw [← Allocation.of_models_eq_run] at sound
  have claimant := Claimant.collection_mem_of_models.mpr ⟨model, member, rfl⟩
  exact Option.isSome_iff_exists.mp
    ((sound.known (.collection model.name)).mpr (covered _ claimant))

theorem type_name_of_grown {earlier later : Symbols} (grown : earlier.types <+: later.types)
    {collection name : String} (known : earlier.typeName? collection = some name) :
    later.typeName? collection = some name := by
  obtain ⟨added, types⟩ := grown
  rw [typeName?] at known
  rw [typeName?, ← types, List.lookup_append, known, Option.some_or]

/-- Models that are appended rename no earlier collection: its type, its expansion and all that it
declares are called as before. -/
theorem appended_models_rename_nothing (target : Target) (models more : List Model) :
    (ofModels models target).types <+: (ofModels (models ++ more) target).types ∧
      ∀ model ∈ models, ∃ name,
        (ofModels models target).typeName? model.name = some name ∧
          (ofModels (models ++ more) target).typeName? model.name = some name ∧
          (ofModels (models ++ more) target).typeName model.name =
            (ofModels models target).typeName model.name ∧
          (ofModels (models ++ more) target).expandName model.name =
            (ofModels models target).expandName model.name ∧
          (Claimant.collection model.name).group target (ofModels (models ++ more) target) =
            (Claimant.collection model.name).group target (ofModels models target) := by
  have grown := types_of_append models more target
  refine ⟨grown, ?_⟩
  intro model member
  obtain ⟨name, known⟩ := type_known member target
  have still := type_name_of_grown grown known
  have sameType : (ofModels (models ++ more) target).typeName model.name =
      (ofModels models target).typeName model.name := by
    rw [typeName, typeName, known, still]
  refine ⟨name, known, still, sameType, ?_, ?_⟩
  · rw [expandName, expandName, sameType]
  · rw [Claimant.group, Claimant.group]
    exact congrArg target.collectionDeclarations sameType

def settledModels : List Model := [
    ⟨{ name := "blog_posts" }, []⟩,
    ⟨{ name := "blogPosts" },
      [{ name := "state", owner := "blogPosts", kind := .enumeration, data := .options ["draft"] }]⟩
  ]

def latecomers : List Model := [
    ⟨{ name := "blog_posts_2" }, []⟩,
    ⟨{ name := "blog_posts_state_options" }, []⟩
  ]

theorem appended_models_rename_nothing_latecomers :
    ∃ model ∈ settledModels,
      (ofModels settledModels .goRecord).typeName model.name = "BlogPosts2" ∧
      (ofModels (settledModels ++ latecomers) .goRecord).typeName model.name =
        (ofModels settledModels .goRecord).typeName model.name ∧
      ∃ property ∈ model.distinctEnums,
        (ofModels (settledModels ++ latecomers) .goRecord).enumName property ≠
          (ofModels settledModels .goRecord).enumName property := by
  have twice : ∃ model ∈ settledModels,
      (ofModels settledModels .goRecord).typeName model.name = "BlogPosts2" ∧
      ∃ property ∈ model.distinctEnums,
        (ofModels (settledModels ++ latecomers) .goRecord).enumName property ≠
          (ofModels settledModels .goRecord).enumName property := by
    decide +kernel
  obtain ⟨model, member, renamed, enumeration⟩ := twice
  obtain ⟨_, _, _, same, _⟩ :=
    (appended_models_rename_nothing .goRecord settledModels latecomers).2 model member
  exact ⟨model, member, renamed, same, enumeration⟩

end Symbols

end CollectionTypes
