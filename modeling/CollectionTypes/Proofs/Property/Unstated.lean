import CollectionTypes.Proofs.Collection.Stated
import CollectionTypes.Proofs.Property.Diagnostics

/-!
Relations of a whole document, from the records that are written to the properties they become. A
reference that is not stated is looked up like any other, and so finds the first collection that
does not state its identifier either. Fields that are no relations are not described here.
-/

namespace CollectionTypes

open Json (Decoder Value)

namespace Interpretation

/-- What a reference comes to among the collections of a document: the first that states the same
identifier. Stating none counts as stating the same. -/
inductive Refers (listed : List (Value × Collection)) (wanted : Option String) :
    RelationTarget → Prop
  | unresolved (unknown : ∀ entry ∈ listed, Collection.identifier? entry.1 ≠ wanted) :
      Refers listed wanted (.unresolved (wanted.getD ""))
  | resolved {before after : List (Value × Collection)} {record : Value} {target : Collection}
      (split : listed = before ++ (record, target) :: after)
      (identified : Collection.identifier? record = wanted)
      (first : ∀ entry ∈ before, Collection.identifier? entry.1 ≠ wanted) :
      Refers listed wanted (.resolved target.name)

def visibleRecords (options : InterpretOptions) (record : Value) (collection : Collection) :
    List (Value × Field) :=
  ((Collection.fieldRecords record).zip collection.fields).filter fun entry =>
    !options.skips entry.2

/-- A relation that refers as its record states, and is reported if that leads nowhere. -/
structure RefersAsStated (listed : List (Value × Collection)) (reported : List Diagnostic)
    (owner : String) (wanted : Option String) (property : Property) (target : RelationTarget) :
    Prop where
  data : property.data = .relation target
  refers : Refers listed wanted target
  /-- Without a reference it stays open only if every collection states its identifier. -/
  unstated : wanted = none →
    (target = .unresolved "" ↔ ∀ entry ∈ listed, Collection.identifier? entry.1 ≠ none)
  stated : ∀ id name, wanted = some id → target = .resolved name →
    ∃ entry ∈ listed, Collection.identifier? entry.1 = some id ∧ entry.2.name = name
  reported : ∀ id, target = .unresolved id →
    ⟨owner, property.name, .unresolvedRelation id⟩ ∈ reported

def RelationsReferAsStated (listed : List (Value × Collection)) (reported : List Diagnostic)
    (options : InterpretOptions) (entry : Value × Collection) (model : Model) : Prop :=
  List.Forall₂
    (fun source property => property.name = source.2.name ∧
      (source.2.kind = .relation → ∃ target, RefersAsStated listed reported entry.2.name
        (Field.reference? source.1) property target))
    (visibleRecords options entry.1 entry.2) model.properties

section Listed

variable {listed : List (Value × Collection)}

theorem Refers.unstated_iff {target : RelationTarget} (refers : Refers listed none target) :
    target = .unresolved "" ↔ ∀ entry ∈ listed, Collection.identifier? entry.1 ≠ none := by
  cases refers with
  | unresolved unknown => exact ⟨fun _ => unknown, fun _ => rfl⟩
  | @resolved before after record target split identified first =>
      refine ⟨fun same => RelationTarget.noConfusion same, fun stated => ?_⟩
      have member : (record, target) ∈ listed := by simp [split]
      exact absurd identified (stated _ member)

/-- A reference that is stated leads to no collection that states no identifier, or another one. -/
theorem Refers.stated {id name : String} (refers : Refers listed (some id) (.resolved name)) :
    ∃ entry ∈ listed, Collection.identifier? entry.1 = some id ∧ entry.2.name = name := by
  cases refers with
  | @resolved before after record target split identified first =>
      exact ⟨(record, target), by simp [split], identified, rfl⟩

/-- What records are read as agrees on what they state, so the lookup by what is read finds the same
collection. -/
theorem refers_of_read
    (read : ∀ entry ∈ listed, Collection.read .sorted entry.1 = .ok entry.2)
    {record : Value} {field : Field} (accepted : Field.read .sorted record = .ok field) :
    Refers listed (Field.reference? record)
      (relationOf (listed.map (·.2)) field.collectionId) := by
  have same_iff (entry : Value × Collection) (member : entry ∈ listed) :
      entry.2.id = field.collectionId ↔
        Collection.identifier? entry.1 = Field.reference? record := by
    rw [Collection.identifier_of_read (read entry member), Field.reference_of_read accepted]
    exact ⟨Json.Value.stated_of_text, fun same => by rw [same]⟩
  rcases relation_of_cases (listed.map (·.2)) field.collectionId with
    ⟨unknown, unresolved⟩ | ⟨before, target, after, split, identified, first, resolved⟩
  · rw [unresolved, Field.reference_of_read accepted]
    exact .unresolved fun entry member => fun same =>
      unknown entry.2 (List.mem_map_of_mem member) ((same_iff entry member).mpr same)
  · rw [resolved]
    obtain ⟨front, back, parted, rfl, following⟩ := List.map_eq_append_iff.mp split
    obtain ⟨⟨record, _⟩, others, rfl, rfl, rfl⟩ := List.map_eq_cons_iff.mp following
    refine .resolved parted ?_ fun entry member => fun same => ?_
    · exact (same_iff (record, _) (by simp [parted])).mp identified
    · exact first entry.2 (List.mem_map_of_mem member)
        ((same_iff entry (by simp [parted, member])).mpr same)

theorem reported_of_unresolved {pool selected : List Collection} {options : InterpretOptions}
    {collection : Collection} {field : Field} {id : String} (chosen : collection ∈ selected)
    (visible : field ∈ visibleFields options collection) (kind : field.kind = .relation)
    (unresolved : relationOf pool field.collectionId = .unresolved id) :
    ⟨collection.name, field.name, .unresolvedRelation id⟩ ∈
      (interpret pool options selected).diagnostics := by
  refine List.mem_flatMap.mpr ⟨collection, chosen, List.mem_filterMap.mpr ⟨field, visible, ?_⟩⟩
  simp [causeOf, kind, unresolved]

theorem visible_fields_of_records {options : InterpretOptions} {record : Value}
    {collection : Collection} (accepted : Collection.read .sorted record = .ok collection) :
    visibleFields options collection =
      (visibleRecords options record collection).map (·.2) := by
  have same := (Collection.fields_of_read accepted).length_eq
  have fields : ((Collection.fieldRecords record).zip collection.fields).map (·.2) =
      collection.fields := List.map_snd_zip (by omega)
  rw [visibleFields, visibleRecords]
  conv_lhs => rw [← fields]
  rw [List.filter_map]
  rfl

theorem property_refers {pool selected : List Collection} {options : InterpretOptions}
    (read : ∀ entry ∈ listed, Collection.read .sorted entry.1 = .ok entry.2)
    (whole : listed.map (·.2) = pool) {entry : Value × Collection} (member : entry ∈ listed)
    (chosen : entry.2 ∈ selected) {source : Value × Field}
    (visible : source ∈ visibleRecords options entry.1 entry.2)
    (kind : source.2.kind = .relation) :
    RefersAsStated listed (interpret pool options selected).diagnostics entry.2.name
      (Field.reference? source.1) (propertyOf pool entry.2.name source.2)
      (relationOf pool source.2.collectionId) := by
  have accepted : Field.read .sorted source.1 = .ok source.2 :=
    (List.forall₂_iff_zip.mp (Collection.fields_of_read (read entry member))).2
      (List.mem_filter.mp visible).1
  have refers := refers_of_read read accepted
  rw [whole] at refers
  refine ⟨by simp [propertyOf, dataOf, kind], refers, fun unstated => ?_,
    fun id name stated same => ?_, fun id unresolved => ?_⟩
  · rw [unstated] at refers
    exact refers.unstated_iff
  · rw [stated, same] at refers
    exact refers.stated
  · refine reported_of_unresolved chosen ?_ kind unresolved
    rw [visible_fields_of_records (read entry member)]
    exact List.mem_map_of_mem visible

end Listed

/-- In every document that is accepted, and however its collections are selected, every relation
that is not skipped refers as its record states. -/
theorem relations_refer_as_stated {text : String} {pool : List Collection}
    (accepted : Document.collections text = .ok pool) :
    ∃ document, Json.parse text = .ok document ∧
      List.Forall₂ (fun record collection => Collection.read .sorted record = .ok collection)
        (Document.records document) pool ∧
      ∀ options, ∀ selected ⊆ (Document.records document).zip pool,
        let interpretation := interpret pool options (selected.map (·.2))
        List.Forall₂ (RelationsReferAsStated ((Document.records document).zip pool)
          interpretation.diagnostics options) selected interpretation.models := by
  obtain ⟨document, parsed, records⟩ := Document.records_of_collections accepted
  refine ⟨document, parsed, records, fun options selected within => ?_⟩
  obtain ⟨same, each⟩ := List.forall₂_iff_zip.mp records
  have whole : ((Document.records document).zip pool).map (·.2) = pool :=
    List.map_snd_zip (by omega)
  have models : (interpret pool options (selected.map (·.2))).models =
      selected.map fun entry => modelOf pool options entry.2 := by
    rw [interpret, List.map_map]
    rfl
  simp only [models]
  rw [List.forall₂_map_right_iff, List.forall₂_same]
  intro entry chosen
  have member := within chosen
  rw [RelationsReferAsStated, modelOf, visible_fields_of_records (each member), List.map_map,
    List.forall₂_map_right_iff, List.forall₂_same]
  refine fun source visible => ⟨rfl, fun kind => ?_⟩
  have refers := property_refers (fun entry member => each member) whole member
    (List.mem_map_of_mem chosen) visible kind
  exact ⟨_, refers⟩

/-- A collection without an identifier and three relations: without a reference, to the collection
that follows, which is written as an array, and to none. -/
def mixedText : String :=
  "[\x7b\"name\":\"a\",\"id\":null,\"fields\":[\x7b\"name\":\"r\",\"type\":\"relation\"\x7d," ++
    "\x7b\"name\":\"s\",\"type\":\"relation\",\"collectionId\":\"x\"\x7d," ++
    "[\"\",\"t\",\"relation\",false,\"y\"]]\x7d,[\"x\",\"b\"]]"

def mixedPool : List Collection := [
  { name := "a"
    fields := [
      { name := "r", typeTag := "relation" },
      { name := "s", typeTag := "relation", collectionId := "x" },
      { name := "t", typeTag := "relation", collectionId := "y" }] },
  { id := "x", name := "b" }]

theorem relations_refer_as_stated_mixed :
    Document.collections mixedText = .ok mixedPool ∧
      ∃ document, Json.parse mixedText = .ok document ∧
        let listed := (Document.records document).zip mixedPool
        let interpretation := interpret mixedPool {} mixedPool
        List.Forall₂ (RelationsReferAsStated listed interpretation.diagnostics {}) listed
          interpretation.models := by
  have accepted : Document.collections mixedText = .ok mixedPool := by decide +kernel
  obtain ⟨document, parsed, records, refer⟩ := relations_refer_as_stated accepted
  have whole : ((Document.records document).zip mixedPool).map (·.2) = mixedPool :=
    List.map_snd_zip (Nat.le_of_eq records.length_eq.symm)
  have all := refer {} _ (List.Subset.refl _)
  rw [whole] at all
  exact ⟨accepted, document, parsed, all⟩

def blankText : String :=
  "[\x7b\"name\":\"a\",\"fields\":[\x7b\"name\":\"r\",\"type\":\"relation\"\x7d]\x7d]"

def blankPool : List Collection :=
  [{ name := "a", fields := [{ name := "r", typeTag := "relation" }] }]

/-- What states nothing on either side is taken for the same identifier: the relation is resolved to
a collection whose identifier the document does not state, and nothing is reported. -/
theorem unstated_relation_resolved :
    Document.collections blankText = .ok blankPool ∧
      (Json.parse blankText).map (fun document => (Document.records document).map fun record =>
        (Collection.identifier? record, (Collection.fieldRecords record).map Field.reference?)) =
          .ok [(none, [none])] ∧
      (interpret blankPool {} blankPool).models.map (fun model => model.properties.map (·.data)) =
        [[.relation (.resolved "a")]] ∧
      (interpret blankPool {} blankPool).diagnostics = [] := by
  decide +kernel

end Interpretation

end CollectionTypes
