import CollectionTypes.Generator.Basic
import CollectionTypes.Proofs.Property.Diagnostics

/-!
What relations take from a pool of collections: for an identifier the name that comes first with it,
and nothing else. Pools that are laid out otherwise generate the same, whatever their collections
carry besides. What is selected is no part of the layout: a selected collection is generated as it
was given, also where the pool has it with other fields.
-/

namespace CollectionTypes

def Collection.key (collection : Collection) : String × String := (collection.id, collection.name)

namespace Interpretation

def FirstNamed (pool : List Collection) (id name : String) : Prop :=
  ∃ before target after, pool = before ++ target :: after ∧ target.key = (id, name) ∧
    ∀ earlier ∈ before, earlier.id ≠ id

/-- Pools in which every identifier leads to the same name. -/
def SameTargets (pool other : List Collection) : Prop :=
  ∀ id name, FirstNamed pool id name ↔ FirstNamed other id name

/-- Pools of the same identifiers with the same names, in any order and with anything else. -/
def SameKeys (pool other : List Collection) : Prop :=
  ∀ key, key ∈ pool.map Collection.key ↔ key ∈ other.map Collection.key

def DistinctIds (pool : List Collection) : Prop := (pool.map (·.id)).Nodup

instance (pool : List Collection) : Decidable (DistinctIds pool) :=
  inferInstanceAs (Decidable (List.Nodup _))

def ResolvedByFirst (pool : List Collection) (options : InterpretOptions)
    (collection : Collection) (model : Model) : Prop :=
  List.Forall₂
    (fun field property => field.kind = .relation → ∀ name,
      property.data = .relation (.resolved name) ↔ FirstNamed pool field.collectionId name)
    (visibleFields options collection) model.properties

section Targets

variable {pool other : List Collection}

theorem relation_of_eq_resolved_iff {id name : String} :
    relationOf pool id = .resolved name ↔ FirstNamed pool id name := by
  constructor
  · intro resolved
    rcases relation_of_cases pool id with
      ⟨_, unresolved⟩ | ⟨before, target, after, split, identified, first, named⟩
    · exact RelationTarget.noConfusion (unresolved.symm.trans resolved)
    · have same : target.name = name := RelationTarget.resolved.inj (named.symm.trans resolved)
      exact ⟨before, target, after, split, Prod.ext identified same, first⟩
  · rintro ⟨before, target, after, rfl, key, first⟩
    obtain ⟨identified, rfl⟩ : target.id = id ∧ target.name = name := Prod.ext_iff.mp key
    exact relation_of_first identified first

/-- Among distinct identifiers every one comes first. -/
theorem first_named_iff_mem (distinct : DistinctIds pool) {id name : String} :
    FirstNamed pool id name ↔ (id, name) ∈ pool.map Collection.key := by
  constructor
  · rintro ⟨before, target, after, rfl, key, _⟩
    exact List.mem_map.mpr ⟨target, by simp, key⟩
  · intro member
    obtain ⟨target, listed, key⟩ := List.mem_map.mp member
    obtain ⟨before, after, rfl⟩ := List.append_of_mem listed
    refine ⟨before, target, after, rfl, key, fun earlier sooner meets => ?_⟩
    have identified : target.id = id := congrArg Prod.fst key
    rw [DistinctIds, List.map_append, List.nodup_append] at distinct
    exact distinct.2.2 earlier.id (List.mem_map_of_mem sooner) target.id (by simp)
      (meets.trans identified.symm)

theorem same_targets_of_keys (distinct : DistinctIds pool) (otherDistinct : DistinctIds other)
    (same : SameKeys pool other) : SameTargets pool other := by
  intro id name
  rw [first_named_iff_mem distinct, first_named_iff_mem otherDistinct]
  exact same (id, name)

theorem relation_of_same_targets (same : SameTargets pool other) (id : String) :
    relationOf other id = relationOf pool id := by
  have resolves (name : String) :
      relationOf other id = .resolved name ↔ relationOf pool id = .resolved name := by
    rw [relation_of_eq_resolved_iff, relation_of_eq_resolved_iff]
    exact (same id name).symm
  rcases relation_of_cases pool id with ⟨_, unresolved⟩ | ⟨_, target, _, _, _, _, named⟩
  · rcases relation_of_cases other id with ⟨_, otherUnresolved⟩ | ⟨_, target, _, _, _, _, named⟩
    · rw [unresolved, otherUnresolved]
    · rw [(resolves target.name).mp named, named]
  · rw [(resolves target.name).mpr named, named]

/-- An interpretation looks at a pool for the targets of relations alone. -/
theorem interpret_of_same_targets (same : SameTargets pool other) (options : InterpretOptions)
    (selected : List Collection) :
    interpret other options selected = interpret pool options selected := by
  have relations : relationOf other = relationOf pool :=
    funext (relation_of_same_targets same)
  have properties : propertyOf other = propertyOf pool := by
    funext owner field
    simp only [propertyOf, dataOf, relations]
  have causes : causeOf other = causeOf pool := by
    funext names field
    simp only [causeOf, relations]
  have models : modelOf other options = modelOf pool options := by
    funext collection
    simp only [modelOf, properties]
  have diagnostics : diagnosticsOf other options = diagnosticsOf pool options := by
    funext names collection
    simp only [diagnosticsOf, causes]
  simp only [interpret, models, diagnostics]

theorem models_resolved_by_first (pool : List Collection) (options : InterpretOptions)
    (selected : List Collection) :
    List.Forall₂ (ResolvedByFirst pool options) selected
      (interpret pool options selected).models := by
  rw [interpret, List.forall₂_map_right_iff, List.forall₂_same]
  intro collection _
  rw [ResolvedByFirst, modelOf, List.forall₂_map_right_iff, List.forall₂_same]
  intro field _ kind name
  rw [← relation_of_eq_resolved_iff]
  simp [propertyOf, dataOf, kind]

end Targets

end Interpretation

namespace Generator

open Interpretation

/-- Two pools of the same identifiers and names, each identifier once, are interpreted and generated
alike, however they are ordered and whatever else their collections carry. In every pool, one with
repeated identifiers too, a relation is resolved to a name if and only if that name comes first with
its identifier. -/
theorem pool_layout_unseen (generator : Generator) (selected pool : List Collection) :
    (∀ other, DistinctIds pool → DistinctIds other → SameKeys pool other →
      generator.interpret selected other = generator.interpret selected pool ∧
        generator.generateCollections selected other =
          generator.generateCollections selected pool) ∧
    List.Forall₂ (ResolvedByFirst pool generator.target.interpretOptions) selected
      (generator.interpret selected pool).models := by
  refine ⟨fun other distinct otherDistinct same => ?_, models_resolved_by_first pool _ selected⟩
  have interpreted : generator.interpret selected other = generator.interpret selected pool :=
    interpret_of_same_targets (same_targets_of_keys distinct otherDistinct same) _ selected
  refine ⟨interpreted, ?_⟩
  rw [generateCollections, interpreted, generateCollections]

def writtenPosts : Collection :=
  { id := "p", name := "posts"
    fields := [{ name := "author", typeTag := "relation", collectionId := "a" }] }

def writtenPool : List Collection :=
  [writtenPosts, { id := "a", name := "authors" }, { id := "t", name := "tags" }]

def otherwiseWrittenPool : List Collection :=
  [{ id := "t", name := "tags", system := true },
    { id := "a", name := "authors", flavour := .view },
    { id := "p", name := "posts", fields := [{ name := "author", typeTag := "date" }] }]

theorem pool_layout_unseen_reordered :
    DistinctIds writtenPool ∧ DistinctIds otherwiseWrittenPool ∧
      SameKeys writtenPool otherwiseWrittenPool ∧
      (forTarget .goStruct).generateCollections [writtenPosts] otherwiseWrittenPool =
        (forTarget .goStruct).generateCollections [writtenPosts] writtenPool ∧
      ∃ model property,
        ((forTarget .goStruct).interpret [writtenPosts]
          (writtenPool ++ [{ id := "a", name := "writers" }])).models = [model] ∧
        model.properties = [property] ∧ property.data = .relation (.resolved "authors") := by
  have distinct : DistinctIds writtenPool := by decide
  have otherDistinct : DistinctIds otherwiseWrittenPool := by decide
  have reversed : (writtenPool.map Collection.key).Perm
      (otherwiseWrittenPool.map Collection.key) := by decide
  have same : SameKeys writtenPool otherwiseWrittenPool := fun _ => reversed.mem_iff
  have unseen := (pool_layout_unseen (forTarget .goStruct) [writtenPosts] writtenPool).1
    otherwiseWrittenPool distinct otherDistinct same
  refine ⟨distinct, otherDistinct, same, unseen.2, ?_⟩
  have first := (pool_layout_unseen (forTarget .goStruct) [writtenPosts]
    (writtenPool ++ [{ id := "a", name := "writers" }])).2
  obtain ⟨model, rest, resolved, none, listed⟩ := List.forall₂_cons_left_iff.mp first
  cases none
  obtain ⟨property, rest, target, none, owned⟩ := List.forall₂_cons_left_iff.mp resolved
  cases none
  refine ⟨model, property, listed, owned, (target rfl "authors").mpr ?_⟩
  exact ⟨[writtenPosts], { id := "a", name := "authors" }, _, rfl, rfl, by decide⟩

end Generator

end CollectionTypes
