import CollectionTypes.Proofs.Generator.Allocation
import CollectionTypes.Proofs.Property.DistinctEnums

/-!
What the symbols of an output promise. Every name is a word, made of the claimant's own stem and at
most a suffix; under coherent models no two claimants share a name of their groups. Models that
share a name but not their properties are no input of this theory.
-/

namespace CollectionTypes

open Naming

/-- Models that no name mixes up: each property knows its owner, and a name belongs to one model. -/
structure Coherent (models : List Model) : Prop where
  same : ∀ left ∈ models, ∀ right ∈ models, left.name = right.name → left = right
  owned : ∀ model ∈ models, ∀ property ∈ model.properties, property.owner = model.name

namespace Claimant

/-- The claimants of an output, in the order in which they get their names. -/
def ofModels (models : List Model) : List Claimant :=
  models.map (fun model => collection model.name) ++
    (models.flatMap (·.distinctEnums)).map enumeration

theorem collection_mem_of_models {models : List Model} {name : String} :
    collection name ∈ ofModels models ↔ ∃ model ∈ models, model.name = name := by
  simp [ofModels]

theorem enumeration_mem_of_models {models : List Model} {property : Property} :
    enumeration property ∈ ofModels models ↔
      ∃ model ∈ models, property ∈ model.distinctEnums := by
  simp [ofModels]

theorem eq_of_key {models : List Model} (coherent : Coherent models) {left right : Claimant}
    (leftMember : left ∈ ofModels models) (rightMember : right ∈ ofModels models)
    (same : left.key = right.key) : left = right := by
  cases left with
  | collection name =>
      cases right with
      | collection other => rw [Sum.inl.inj same]
      | enumeration property => exact absurd same (by simp [key])
  | enumeration property =>
      cases right with
      | collection name => exact absurd same (by simp [key])
      | enumeration other =>
          obtain ⟨sameOwner, sameName⟩ := Prod.mk.inj (Sum.inr.inj same)
          obtain ⟨model, member, enums⟩ := enumeration_mem_of_models.mp leftMember
          obtain ⟨otherModel, otherMember, otherEnums⟩ := enumeration_mem_of_models.mp rightMember
          have owner := coherent.owned model member property (Model.distinct_enums_mem enums).1
          have otherOwner := coherent.owned otherModel otherMember other
            (Model.distinct_enums_mem otherEnums).1
          have one : model = otherModel := coherent.same model member otherModel otherMember
            (by rw [← owner, ← otherOwner, sameOwner])
          subst one
          exact congrArg enumeration (List.inj_on_of_nodup_map
            model.distinct_enums_names_nodup enums otherEnums sameName)

theorem of_models_nodup {models : List Model} (distinct : (models.map (·.name)).Nodup)
    (owned : ∀ model ∈ models, ∀ property ∈ model.properties, property.owner = model.name) :
    (ofModels models).Nodup := by
  have collections : (models.map fun model => collection model.name).Nodup := by
    have names := distinct.map (f := collection) fun left right same => collection.inj same
    rwa [List.map_map] at names
  have enums : (models.flatMap (·.distinctEnums)).Nodup := by
    refine List.nodup_flatMap.mpr ⟨?_, ?_⟩
    · exact fun model _ => model.distinct_enums_names_nodup.of_map
    · refine (List.pairwise_map.mp distinct).imp_of_mem ?_
      intro left right leftMember rightMember different property inLeft inRight
      have leftOwner := owned left leftMember property (Model.distinct_enums_mem inLeft).1
      have rightOwner := owned right rightMember property (Model.distinct_enums_mem inRight).1
      exact different (leftOwner.symm.trans rightOwner)
  refine List.nodup_append'.mpr ⟨collections, ?_, ?_⟩
  · exact enums.map fun left right same => enumeration.inj same
  · intro claimant isCollection isEnumeration
    obtain ⟨model, _, rfl⟩ := List.mem_map.mp isCollection
    obtain ⟨property, _, same⟩ := List.mem_map.mp isEnumeration
    contradiction

end Claimant

theorem Coherent.of_distinct {models : List Model} (distinct : (models.map (·.name)).Nodup)
    (owned : ∀ model ∈ models, ∀ property ∈ model.properties, property.owner = model.name) :
    Coherent models :=
  ⟨fun _ leftMember _ rightMember same =>
    List.inj_on_of_nodup_map distinct leftMember rightMember same, owned⟩

theorem Allocation.of_models_eq_run (models : List Model) (target : Target) :
    Allocation.ofModels models target =
      (Claimant.ofModels models).foldl (Allocation.add target) {} := by
  rw [Claimant.ofModels, List.foldl_append, List.foldl_map, List.foldl_map]
  simp only [Allocation.ofModels, List.foldl_map]
  rfl

namespace Symbols

/-- Every symbol is the stem of its claimant, with or without a suffix. -/
theorem name_is_candidate (models : List Model) (target : Target) (claimant : Claimant) :
    ∃ suffix, claimant.name (ofModels models target) =
      Namespace.candidate claimant.stem suffix := by
  obtain ⟨claimed, sound, _, _⟩ := Allocation.run_sound target (Claimant.ofModels models)
  rw [← Allocation.of_models_eq_run] at sound
  cases found : claimant.name? (ofModels models target) with
  | none => exact ⟨1, by rw [Claimant.name, found]; rfl⟩
  | some name =>
      obtain ⟨earlier, member, same⟩ := (sound.known claimant).mp (by
        rw [← ofModels, found]
        rfl)
      obtain ⟨suffix, _, named⟩ := sound.suffixed earlier member
      refine ⟨suffix, ?_⟩
      rw [← Claimant.stem_of_key same, ← named, Claimant.name, Claimant.name, ← ofModels,
        Claimant.name_of_key same, Claimant.stem_of_key same]

structure Worded (symbols : Symbols) : Prop where
  types : ∀ collection, IsWord (symbols.typeName collection)
  enums : ∀ property, IsWord (symbols.enumName property)

theorem of_models_worded (models : List Model) (target : Target) :
    Worded (ofModels models target) := by
  have words (claimant : Claimant) : IsWord (claimant.name (ofModels models target)) := by
    obtain ⟨suffix, named⟩ := name_is_candidate models target claimant
    rw [named]
    exact candidate_is_word claimant.stem_is_word suffix
  exact ⟨fun collection => words (.collection collection),
    fun property => words (.enumeration property)⟩

theorem enum_name_of_key {left right : Property} (same : enumKey left = enumKey right)
    (symbols : Symbols) : symbols.enumName left = symbols.enumName right := by
  have stems : (Claimant.enumeration left).stem = (Claimant.enumeration right).stem :=
    Claimant.stem_of_key (congrArg Sum.inr same)
  rw [Claimant.stem, Claimant.stem] at stems
  rw [enumName, enumName, enumName?, enumName?, same, stems]

def referenced (symbols : Symbols) (target : Target) (property : Property) : List String :=
  match property.kind, property.relationTarget? with
  | .enumeration, _ => [symbols.enumName property]
  | .relation, some collection =>
      symbols.typeName collection ::
        if target = .goRecord then [Target.wrapName (symbols.typeName collection)] else []
  | _, _ => []

theorem referenced_cases {symbols : Symbols} {target : Target} {property : Property}
    {name : String} (referenced : name ∈ symbols.referenced target property) :
    property.kind = .enumeration ∧ name = symbols.enumName property ∨
      property.kind = .relation ∧ ∃ collection, property.relationTarget? = some collection := by
  unfold Symbols.referenced at referenced
  split at referenced
  · rename_i kind
    exact Or.inl ⟨kind, List.mem_singleton.mp referenced⟩
  · rename_i collection kind found
    exact Or.inr ⟨kind, collection, found⟩
  · contradiction

theorem referenced_are_words {symbols : Symbols} (worded : symbols.Worded) (target : Target)
    (property : Property) : ∀ name ∈ symbols.referenced target property, IsWord name := by
  have wrapped (collection : String) : IsWord (Target.wrapName (symbols.typeName collection)) :=
    is_word_append (literal_is_word (by decide)) (worded.types collection)
  unfold referenced
  split
  · simpa using worded.enums property
  · split
    · simp only [List.forall_mem_cons]
      exact ⟨worded.types _, wrapped _, by simp⟩
    · simpa using worded.types _
  · simp

/-- Under coherent models every claimant gets its own group. -/
theorem all_claimed {models : List Model} (coherent : Coherent models) (target : Target) :
    ∃ claimed, Allocation.Sound target claimed (Allocation.ofModels models target) ∧
      claimed.Sublist (Claimant.ofModels models) ∧
      ∀ claimant ∈ Claimant.ofModels models, claimant ∈ claimed := by
  obtain ⟨claimed, sound, sublist, covered⟩ :=
    Allocation.run_sound target (Claimant.ofModels models)
  rw [← Allocation.of_models_eq_run] at sound
  refine ⟨claimed, sound, sublist, ?_⟩
  intro claimant member
  obtain ⟨earlier, earlierMember, same⟩ := covered claimant member
  have one := Claimant.eq_of_key coherent (sublist.subset earlierMember) member same
  rwa [← one]

/-- A collection that is in no model has no symbol of its own. -/
theorem type_name_of_unknown {models : List Model} (target : Target) {collection : String}
    (unknown : ∀ model ∈ models, model.name ≠ collection) :
    (ofModels models target).typeName collection = Go.exportedName collection := by
  obtain ⟨claimed, sound, sublist, _⟩ := Allocation.run_sound target (Claimant.ofModels models)
  rw [← Allocation.of_models_eq_run] at sound
  cases found : (ofModels models target).typeName? collection with
  | none => rw [typeName, found, Option.getD_none]
  | some name =>
      obtain ⟨earlier, member, same⟩ := (sound.known (.collection collection)).mp (by
        rw [← ofModels, Claimant.name?, found]
        rfl)
      cases earlier with
      | collection other =>
          have one : other = collection := Sum.inl.inj same
          obtain ⟨model, modelMember, named⟩ :=
            Claimant.collection_mem_of_models.mp (sublist.subset member)
          exact absurd (named.trans one) (unknown model modelMember)
      | enumeration property => exact absurd same (by simp [Claimant.key])

/-- With distinct names nothing is claimed but one group for each claimant, and these are apart. -/
theorem claimed_names {models : List Model} (distinct : (models.map (·.name)).Nodup)
    (owned : ∀ model ∈ models, ∀ property ∈ model.properties, property.owner = model.name)
    (target : Target) :
    (Allocation.ofModels models target).space.taken.Perm
        ((Claimant.ofModels models).flatMap fun claimant =>
          claimant.group target (ofModels models target)) ∧
      (Allocation.ofModels models target).space.taken.Nodup := by
  obtain ⟨claimed, sound, sublist, covered⟩ :=
    all_claimed (Coherent.of_distinct distinct owned) target
  have order := (Claimant.of_models_nodup distinct owned).subperm covered
  have all : claimed = Claimant.ofModels models := sublist.eq_of_length_le order.length_le
  subst all
  exact ⟨sound.taken, sound.distinct⟩

theorem groups_apart {models : List Model} (coherent : Coherent models) {target : Target}
    {left right : Claimant} (leftMember : left ∈ Claimant.ofModels models)
    (rightMember : right ∈ Claimant.ofModels models) {name : String}
    (inLeft : name ∈ left.group target (ofModels models target))
    (inRight : name ∈ right.group target (ofModels models target)) : left = right := by
  obtain ⟨claimed, sound, _, covered⟩ := all_claimed coherent target
  have distinct := sound.taken.nodup_iff.mp sound.distinct
  have pairwise := (List.nodup_flatMap.mp distinct).2
  have symmetric : Std.Symm (Function.onFun List.Disjoint fun claimant : Claimant =>
      claimant.group target (Allocation.ofModels models target).symbols) :=
    ⟨fun _ _ disjoint => disjoint.symm⟩
  by_contra different
  exact pairwise.forall (covered left leftMember) (covered right rightMember) different inLeft
    inRight

theorem name_of_claimant {models : List Model} (coherent : Coherent models) (target : Target)
    {claimant : Claimant} (member : claimant ∈ Claimant.ofModels models) :
    ∃ suffix, 1 ≤ suffix ∧ claimant.name (ofModels models target) =
      Namespace.candidate claimant.stem suffix := by
  obtain ⟨claimed, sound, _, covered⟩ := all_claimed coherent target
  exact sound.suffixed claimant (covered claimant member)

end Symbols

end CollectionTypes
