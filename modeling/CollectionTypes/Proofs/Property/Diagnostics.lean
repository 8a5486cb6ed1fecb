import CollectionTypes.Property.Interpretation
import Mathlib.Data.List.Forall2

/-!
Diagnostics read off the models. What is reported is found again in the properties that an
interpretation returns, one by one and in their order, so that nothing is reported of a field that
is skipped or settled. What a field comes to depends on no other field. The texts of diagnostics
are no part of this.
-/

namespace CollectionTypes

def Property.openCause? (selectedNames : List String) (property : Property) :
    Option DiagnosticCause :=
  match property.kind, property.data with
  | .enumeration, .options [] => some .missingEnumValues
  | .relation, .relation (.unresolved collectionId) => some (.unresolvedRelation collectionId)
  | .relation, .relation (.resolved target) =>
      if target ∈ selectedNames then none else some (.targetNotSelected target)
  | _, _ => none

def Model.openDiagnostics (selectedNames : List String) (model : Model) : List Diagnostic :=
  model.properties.filterMap fun property =>
    (property.openCause? selectedNames).map fun cause => ⟨model.name, property.name, cause⟩

namespace Interpretation

/-- What the data of a field are: a relation is unresolved if no collection of the pool has its
identifier, and otherwise has the name of the first that does. -/
inductive Settles (pool : List Collection) (field : Field) : PropertyData → Prop
  | options (kind : field.kind = .enumeration) : Settles pool field (.options field.values)
  | unresolved (kind : field.kind = .relation)
      (unknown : ∀ collection ∈ pool, collection.id ≠ field.collectionId) :
      Settles pool field (.relation (.unresolved field.collectionId))
  | resolved {before after : List Collection} {target : Collection}
      (kind : field.kind = .relation) (split : pool = before ++ target :: after)
      (identified : target.id = field.collectionId)
      (first : ∀ collection ∈ before, collection.id ≠ field.collectionId) :
      Settles pool field (.relation (.resolved target.name))
  | plain (enumeration : field.kind ≠ .enumeration) (relation : field.kind ≠ .relation) :
      Settles pool field .plain

structure Becomes (pool : List Collection) (owner : String) (field : Field)
    (property : Property) : Prop where
  name : property.name = field.name
  owned : property.owner = owner
  kind : property.kind = field.kind
  settled : Settles pool field property.data

/-- A model of a collection: of each field that is not skipped one property, in order. -/
structure Interprets (pool : List Collection) (options : InterpretOptions)
    (collection : Collection) (model : Model) : Prop where
  collection_eq : model.collection = collection
  properties : List.Forall₂ (Becomes pool collection.name)
    (collection.fields.filter fun field => !options.skips field) model.properties

def outcomeOf (pool : List Collection) (options : InterpretOptions) (selectedNames : List String)
    (owner : String) (field : Field) : Option (Property × Option Diagnostic) :=
  if options.skips field then none
  else some (propertyOf pool owner field,
    (causeOf pool selectedNames field).map fun cause => ⟨owner, field.name, cause⟩)

/-- Pools that relations cannot tell apart: the same identifiers and names, in order. -/
def SameNames (pool other : List Collection) : Prop :=
  pool.map (fun collection => (collection.id, collection.name)) =
    other.map fun collection => (collection.id, collection.name)

section Settled

variable {pool other : List Collection} {options : InterpretOptions} {names : List String}

theorem relation_of_unknown {id : String} (unknown : ∀ collection ∈ pool, collection.id ≠ id) :
    relationOf pool id = .unresolved id := by
  have missing : pool.find? (·.id == id) = none :=
    List.find?_eq_none.mpr fun collection member => by simpa using unknown collection member
  rw [relationOf, nameOfId?, missing]
  rfl

theorem relation_of_first {before after : List Collection} {target : Collection} {id : String}
    (identified : target.id = id) (first : ∀ collection ∈ before, collection.id ≠ id) :
    relationOf (before ++ target :: after) id = .resolved target.name := by
  have found : (before ++ target :: after).find? (·.id == id) = some target := by
    rw [List.find?_eq_some_iff_append]
    exact ⟨by simpa using identified, before, after, rfl, fun collection member => by
      simpa using first collection member⟩
  rw [relationOf, nameOfId?, found]
  rfl

/-- A relation points to nothing, or to the first collection with its identifier. -/
theorem relation_of_cases (pool : List Collection) (id : String) :
    ((∀ collection ∈ pool, collection.id ≠ id) ∧ relationOf pool id = .unresolved id) ∨
    ∃ before target after, pool = before ++ target :: after ∧ target.id = id ∧
      (∀ collection ∈ before, collection.id ≠ id) ∧ relationOf pool id = .resolved target.name := by
  cases found : pool.find? (·.id == id) with
  | none =>
      have unknown (collection : Collection) (member : collection ∈ pool) : collection.id ≠ id := by
        simpa using List.find?_eq_none.mp found collection member
      exact .inl ⟨unknown, relation_of_unknown unknown⟩
  | some target =>
      obtain ⟨matched, before, after, split, earlier⟩ := List.find?_eq_some_iff_append.mp found
      have identified : target.id = id := by simpa using matched
      have first (collection : Collection) (member : collection ∈ before) :
          collection.id ≠ id := by simpa using earlier collection member
      refine .inr ⟨before, target, after, split, identified, first, ?_⟩
      rw [split]
      exact relation_of_first identified first

theorem settles_data (pool : List Collection) (field : Field) :
    Settles pool field (dataOf pool field) := by
  cases kind : field.kind with
  | enumeration => rw [dataOf, kind]; exact .options kind
  | relation =>
      rw [dataOf, kind]
      rcases relation_of_cases pool field.collectionId with
        ⟨unknown, target⟩ | ⟨before, target, after, split, identified, first, resolved⟩
      · simp only [target]
        exact .unresolved kind unknown
      · simp only [resolved]
        exact .resolved kind split identified first
  | text | number | boolean | json | file | date =>
      rw [dataOf, kind]
      exact .plain (by simp [kind]) (by simp [kind])

theorem interprets_model (pool : List Collection) (options : InterpretOptions)
    (collection : Collection) :
    Interprets pool options collection (modelOf pool options collection) where
  collection_eq := rfl
  properties := by
    rw [modelOf, visibleFields, List.forall₂_map_right_iff, List.forall₂_same]
    exact fun field _ => ⟨rfl, rfl, rfl, settles_data pool field⟩

/-- What is reported of a field is what its property leaves open. -/
theorem open_cause_of_property (owner : String) (field : Field) :
    (propertyOf pool owner field).openCause? names = causeOf pool names field := by
  cases kind : field.kind with
  | enumeration =>
      cases values : field.values <;>
        simp [Property.openCause?, propertyOf, dataOf, causeOf, kind, values]
  | relation =>
      cases target : relationOf pool field.collectionId <;>
        simp [Property.openCause?, propertyOf, dataOf, causeOf, kind, target]
  | text | number | boolean | json | file | date =>
      simp [Property.openCause?, propertyOf, dataOf, causeOf, kind]

theorem diagnostics_of_model (collection : Collection) :
    diagnosticsOf pool options names collection =
      (modelOf pool options collection).openDiagnostics names := by
  simp only [diagnosticsOf, Model.openDiagnostics, modelOf, List.filterMap_map]
  refine List.filterMap_congr fun field _ => ?_
  simp only [Function.comp_apply, open_cause_of_property]
  rfl

theorem relation_of_same_names (same : SameNames pool other) (id : String) :
    relationOf pool id = relationOf other id := by
  have named (collections : List Collection) : nameOfId? collections id =
      ((collections.map fun collection => (collection.id, collection.name)).find?
        (·.1 == id)).map (·.2) := by
    rw [nameOfId?, List.find?_map, Option.map_map]
    rfl
  have equal : nameOfId? pool id = nameOfId? other id := by
    rw [named, named, same]
  rw [relationOf, relationOf, equal]

theorem outcome_of_same_names (same : SameNames pool other) (owner : String) (field : Field) :
    outcomeOf pool options names owner field = outcomeOf other options names owner field := by
  have relation := relation_of_same_names same field.collectionId
  simp only [outcomeOf, propertyOf, dataOf, causeOf, relation]

theorem outcomes_of_fields (pool : List Collection) (options : InterpretOptions)
    (names : List String) (collection : Collection) :
    collection.fields.filterMap (outcomeOf pool options names collection.name) =
      (visibleFields options collection).map fun field =>
        (propertyOf pool collection.name field, (causeOf pool names field).map fun cause =>
          ⟨collection.name, field.name, cause⟩) := by
  rw [visibleFields, ← List.filterMap_eq_map, List.filterMap_filter]
  refine List.filterMap_congr fun field _ => ?_
  cases skipped : options.skips field <;> simp [outcomeOf, skipped]

/-- An interpretation, field by field. -/
theorem interpret_eq_outcomes (pool : List Collection) (options : InterpretOptions)
    (selected : List Collection) :
    let outcome := outcomeOf pool options (selected.map (·.name))
    interpret pool options selected =
      { models := selected.map fun collection =>
          ⟨collection, (collection.fields.filterMap (outcome collection.name)).map (·.1)⟩
        diagnostics := selected.flatMap fun collection =>
          (collection.fields.filterMap (outcome collection.name)).filterMap (·.2) } := by
  simp only [outcomes_of_fields, List.map_map, List.filterMap_map]
  rfl

end Settled

/-- The diagnostics are those that the models owe, in model and property order; each model has one
property for each field of its collection that is not skipped, settled by the pool alone; and what a
field comes to depends on the field and the name of its collection, and else only on names and
identifiers, so that a change of one field changes nothing of another, however often its collection
is selected. -/
theorem diagnostics_exact (pool : List Collection) (options : InterpretOptions)
    (selected : List Collection) :
    (interpret pool options selected).diagnostics =
        (interpret pool options selected).models.flatMap
          (Model.openDiagnostics (selected.map (·.name))) ∧
      List.Forall₂ (Interprets pool options) selected (interpret pool options selected).models ∧
      ∃ outcome : String → Field → Option (Property × Option Diagnostic),
        ∀ otherPool otherSelected, SameNames pool otherPool →
          otherSelected.map (·.name) = selected.map (·.name) →
          interpret otherPool options otherSelected =
            { models := otherSelected.map fun collection =>
                ⟨collection, (collection.fields.filterMap (outcome collection.name)).map (·.1)⟩
              diagnostics := otherSelected.flatMap fun collection =>
                (collection.fields.filterMap (outcome collection.name)).filterMap (·.2) } := by
  refine ⟨?_, ?_, outcomeOf pool options (selected.map (·.name)), ?_⟩
  · simp only [interpret, List.flatMap_map]
    exact List.flatMap_congr fun collection _ => diagnostics_of_model collection
  · rw [interpret, List.forall₂_map_right_iff, List.forall₂_same]
    exact fun collection _ => interprets_model pool options collection
  · intro otherPool otherSelected same names
    have outcome : outcomeOf pool options (selected.map (·.name)) =
        outcomeOf otherPool options (otherSelected.map (·.name)) := by
      funext owner field
      rw [names]
      exact outcome_of_same_names same owner field
    rw [interpret_eq_outcomes, outcome]

def openFields : List Field :=
  [{ name := "gone", typeTag := "relation", collectionId := "x" },
   { name := "author", typeTag := "relation", collectionId := "a" },
   { name := "state", typeTag := "select" },
   { name := "secret", typeTag := "relation", hidden := true }]

def openPosts : Collection := { id := "p", name := "posts", fields := openFields }

def editedPosts : Collection :=
  { openPosts with
    fields := { name := "self", typeTag := "relation", collectionId := "p" } :: openFields.tail }

def openAuthors : Collection := { id := "a", name := "authors" }

/-- A collection that is selected twice is reported twice. The edit takes the diagnostics of its own
field away and no others: one and the same function of fields accounts for both lists. -/
theorem diagnostics_exact_edited :
    let reported := (interpret [openPosts, openAuthors] {} [openPosts, openPosts]).diagnostics
    let edited := (interpret [editedPosts, openAuthors] {} [editedPosts, editedPosts]).diagnostics
    SameNames [openPosts, openAuthors] [editedPosts, openAuthors] ∧
    reported = (List.replicate 2 [⟨"posts", "gone", .unresolvedRelation "x"⟩,
      ⟨"posts", "author", .targetNotSelected "authors"⟩,
      ⟨"posts", "state", .missingEnumValues⟩]).flatten ∧
    edited = (List.replicate 2 [⟨"posts", "author", .targetNotSelected "authors"⟩,
      ⟨"posts", "state", .missingEnumValues⟩]).flatten ∧
    ∃ outcome : String → Field → Option (Property × Option Diagnostic),
      let reports (collection : Collection) :=
        (collection.fields.filterMap (outcome collection.name)).filterMap (·.2)
      reported = [openPosts, openPosts].flatMap reports ∧
        edited = [editedPosts, editedPosts].flatMap reports := by
  obtain ⟨owed, _, outcome, fieldByField⟩ :=
    diagnostics_exact [openPosts, openAuthors] {} [openPosts, openPosts]
  have same : SameNames [openPosts, openAuthors] [editedPosts, openAuthors] := rfl
  refine ⟨same, owed.trans (by decide), by decide, outcome, ?_, ?_⟩
  · exact congrArg (·.diagnostics) (fieldByField _ [openPosts, openPosts] rfl rfl)
  · exact congrArg (·.diagnostics) (fieldByField _ [editedPosts, editedPosts] same rfl)

end Interpretation

end CollectionTypes
