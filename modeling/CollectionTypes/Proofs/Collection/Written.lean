import CollectionTypes.Collection.Document
import CollectionTypes.Proofs.Json.Decoder
import CollectionTypes.Proofs.Json.Written

/-!
Collections that are written as a document and read again. Records are written with all their keys,
in the order of their fields.
-/

namespace CollectionTypes

open Json (Decoder Fault Value)

def Json.Decoder.countBound : Nat := Nat.pow 2 32

theorem Json.Number.count_writable {count : Nat} (small : count < Decoder.countBound) :
    ∃ value : Nat, value < NumberText.digitBound ∧ integer count = .integer value :=
  ⟨count, Nat.lt_trans small (by decide), rfl⟩

/-! What is written for the parts of a record is taken as it is. -/

namespace Json.Decoder

/-- One part of a record is put in place. -/
theorem assigned_of_read {α β : Type} {read : Except Fault β} {part : β} (place : β → α)
    (taken : read = .ok part) : (do return place (← read)) = .ok (place part) := by
  rw [taken]
  rfl

theorem default_count_of_written {value : Nat} (small : value < countBound) :
    sorted.orDefault 0 sorted.count (.number (.integer value)) = .ok value := by
  have within : (decide ((0 : Int) ≤ value) && decide ((value : Int) < Nat.pow 2 32)) = true := by
    simp only [Bool.and_eq_true, decide_eq_true_eq]
    exact ⟨Int.natCast_nonneg value, Int.ofNat_lt.mpr small⟩
  have counted : Sorted.count (.number (.integer value)) = .ok value := by
    rw [Sorted.count, countOfNumber, if_pos within, Int.toNat_natCast]
  have known : sorted.count = Sorted.count := rfl
  rw [orDefault, known, counted]
  rfl

theorem list_of_written {α : Type} {read : Value → Except Fault α} {items : List α}
    (write : α → Value) (each : ∀ item ∈ items, read (write item) = .ok item) :
    sorted.list read (.array (items.map write)) = .ok items := by
  rw [list_eq_ok, List.forall₂_map_left_iff, List.forall₂_same]
  exact each

end Json.Decoder

namespace Field

def record (field : Field) : Value :=
  .object [
    ("id", .text field.id),
    ("name", .text field.name),
    ("type", .text field.typeTag),
    ("required", .flag field.required),
    ("collectionId", .text field.collectionId),
    ("maxSelect", .number (.integer field.maxSelect)),
    ("values", .array (field.values.map .text)),
    ("hidden", .flag field.hidden)]

theorem canonical_record (field : Field) : field.record.canonical = field.toValue := by
  simp [record, toValue, Value.canonical, Function.comp_def]

theorem toValue_eq (field : Field) : field.toValue = .object [
    ("collectionId", .text field.collectionId),
    ("hidden", .flag field.hidden),
    ("id", .text field.id),
    ("maxSelect", .number (.integer field.maxSelect)),
    ("name", .text field.name),
    ("required", .flag field.required),
    ("type", .text field.typeTag),
    ("values", .array (field.values.map .text))] := by
  rfl

theorem read_toValue (field : Field) (counted : field.maxSelect < Decoder.countBound) :
    Field.read .sorted field.toValue = .ok field := by
  have values : Decoder.sorted.list Decoder.sorted.text (.array (field.values.map .text)) =
      .ok field.values := Decoder.list_of_written .text fun _ _ => rfl
  rw [toValue_eq]
  refine Decoder.record_of_entries ?_ rfl
  -- The entries come in the order of their keys, not of the fields.
  refine Decoder.assign_entry rfl rfl ?_
  refine Decoder.assign_entry rfl rfl ?_
  refine Decoder.assign_entry rfl rfl ?_
  refine Decoder.assign_entry rfl
    (Decoder.assigned_of_read _ (Decoder.default_count_of_written counted)) ?_
  refine Decoder.assign_entry rfl rfl ?_
  refine Decoder.assign_entry rfl rfl ?_
  refine Decoder.assign_entry rfl rfl ?_
  refine Decoder.assign_entry rfl (Decoder.assigned_of_read _ values) ?_
  rfl

/-- The texts of a field lie two levels deep: in its record, and among its values. -/
theorem record_writable (field : Field) (counted : field.maxSelect < Decoder.countBound)
    (depth : Nat) : field.record.Writable (depth + 2) := by
  simp only [record, Value.Writable, List.forall_mem_cons, List.forall_mem_map]
  exact ⟨trivial, trivial, trivial, trivial, trivial, Json.Number.count_writable counted, by simp⟩

end Field

namespace Collection

def Counted (collection : Collection) : Prop :=
  ∀ field ∈ collection.fields, field.maxSelect < Decoder.countBound

def record (collection : Collection) : Value :=
  .object [
    ("id", .text collection.id),
    ("name", .text collection.name),
    ("type", .text collection.flavour.name),
    ("system", .flag collection.system),
    ("fields", .array (collection.fields.map Field.record))]

theorem canonical_record (collection : Collection) :
    collection.record.canonical = collection.toValue := by
  simp [record, toValue, Value.canonical, Function.comp_def, Field.canonical_record]

theorem toValue_eq (collection : Collection) : collection.toValue = .object [
    ("fields", .array (collection.fields.map Field.toValue)),
    ("id", .text collection.id),
    ("name", .text collection.name),
    ("system", .flag collection.system),
    ("type", .text collection.flavour.name)] := by
  rfl

/-- A flavour that nobody knows is written under a name of its own, which nobody knows either. -/
theorem read_flavour_name (flavour : Flavour) :
    Decoder.sorted.orDefault .base (readFlavour .sorted) (.text flavour.name) = .ok flavour := by
  have named : readFlavour .sorted (.text flavour.name) = .ok (Flavour.ofName flavour.name) := rfl
  rw [Decoder.orDefault, named, Flavour.ofName_name]
  rfl

theorem read_toValue (collection : Collection) (counted : collection.Counted) :
    Collection.read .sorted collection.toValue = .ok collection := by
  have fields := Decoder.list_of_written Field.toValue fun field member =>
    Field.read_toValue field (counted field member)
  rw [toValue_eq]
  refine Decoder.record_of_entries ?_ rfl
  refine Decoder.assign_entry rfl (Decoder.assigned_of_read _ fields) ?_
  refine Decoder.assign_entry rfl rfl ?_
  refine Decoder.assign_entry rfl rfl ?_
  refine Decoder.assign_entry rfl rfl ?_
  refine Decoder.assign_entry rfl
    (Decoder.assigned_of_read _ (read_flavour_name collection.flavour)) ?_
  rfl

theorem record_writable (collection : Collection) (counted : collection.Counted) (depth : Nat) :
    collection.record.Writable (depth + 4) := by
  have fields (field : Field) (member : field ∈ collection.fields) :=
    field.record_writable (counted field member) depth
  simpa [record, Value.Writable] using fields

end Collection

namespace Listing

structure Counted (listing : Listing) : Prop where
  page : listing.page < Decoder.countBound
  perPage : listing.perPage < Decoder.countBound
  totalItems : listing.totalItems < Decoder.countBound
  totalPages : listing.totalPages < Decoder.countBound
  items : ∀ collection ∈ listing.items, collection.Counted

def record (listing : Listing) : Value :=
  .object [
    ("page", .number (.integer listing.page)),
    ("perPage", .number (.integer listing.perPage)),
    ("totalItems", .number (.integer listing.totalItems)),
    ("totalPages", .number (.integer listing.totalPages)),
    ("items", .array (listing.items.map Collection.record))]

theorem canonical_record (listing : Listing) : listing.record.canonical = listing.toValue := by
  simp [record, toValue, Value.canonical, Function.comp_def, Collection.canonical_record]

theorem toValue_eq (listing : Listing) : listing.toValue = .object [
    ("items", .array (listing.items.map Collection.toValue)),
    ("page", .number (.integer listing.page)),
    ("perPage", .number (.integer listing.perPage)),
    ("totalItems", .number (.integer listing.totalItems)),
    ("totalPages", .number (.integer listing.totalPages))] := by
  rfl

theorem read_toValue (listing : Listing) (counted : listing.Counted) :
    Listing.read .sorted listing.toValue = .ok listing := by
  have items := Decoder.list_of_written Collection.toValue fun collection member =>
    Collection.read_toValue collection (counted.items collection member)
  rw [toValue_eq]
  refine Decoder.record_of_entries ?_ rfl
  refine Decoder.assign_entry rfl (Decoder.assigned_of_read _ items) ?_
  refine Decoder.assign_entry rfl
    (Decoder.assigned_of_read _ (Decoder.default_count_of_written counted.page)) ?_
  refine Decoder.assign_entry rfl
    (Decoder.assigned_of_read _ (Decoder.default_count_of_written counted.perPage)) ?_
  refine Decoder.assign_entry rfl
    (Decoder.assigned_of_read _ (Decoder.default_count_of_written counted.totalItems)) ?_
  refine Decoder.assign_entry rfl
    (Decoder.assigned_of_read _ (Decoder.default_count_of_written counted.totalPages)) ?_
  rfl

theorem record_writable (listing : Listing) (counted : listing.Counted) :
    listing.record.Writable Json.Tree.greatestDepth := by
  have items (collection : Collection) (member : collection ∈ listing.items) :=
    collection.record_writable (counted.items collection member) 121
  simp only [record, Json.Tree.greatestDepth, Value.Writable, List.forall_mem_cons,
    List.forall_mem_map]
  exact ⟨Json.Number.count_writable counted.page, Json.Number.count_writable counted.perPage,
    Json.Number.count_writable counted.totalItems, Json.Number.count_writable counted.totalPages,
    items, by simp⟩

end Listing

namespace Document

theorem collections_of_write {written : Value}
    (writable : written.Writable Json.Tree.greatestDepth) :
    collections (Json.Writer.write written) = collectionsOfValue written.canonical := by
  rw [collections, Json.parse_write writable]
  rfl

theorem collections_of_array {items : List Collection}
    (counted : ∀ collection ∈ items, collection.Counted) :
    collections (Json.Writer.write (.array (items.map Collection.record))) = .ok items := by
  have writable : (Value.array (items.map Collection.record)).Writable Json.Tree.greatestDepth := by
    have records (collection : Collection) (member : collection ∈ items) :=
      collection.record_writable (counted collection member) 122
    simpa [Value.Writable, Json.Tree.greatestDepth] using records
  have listed := Decoder.list_of_written Collection.toValue fun collection member =>
    Collection.read_toValue collection (counted collection member)
  have canonical : (Value.array (items.map Collection.record)).canonical =
      .array (items.map Collection.toValue) := by
    simp [Value.canonical, Function.comp_def, Collection.canonical_record]
  rw [collections_of_write writable, canonical]
  simp only [collectionsOfValue, listed]
  rfl

theorem collections_of_listing {listing : Listing} (counted : listing.Counted) :
    collections (Json.Writer.write listing.record) = .ok listing.items := by
  have taken := listing.read_toValue counted
  rw [collections_of_write (listing.record_writable counted), listing.canonical_record]
  rw [Listing.toValue_eq] at taken ⊢
  simp [collectionsOfValue, taken, Except.map, Except.mapError]

/-- Collections are read back as they were, as the array of an export and as the items of a
listing. -/
theorem written_collections_read_back (items : List Collection)
    (counted : ∀ collection ∈ items, collection.Counted) :
    collections (Json.Writer.write (.array (items.map Collection.record))) = .ok items ∧
      ∀ listing : Listing, listing.items = items → listing.Counted →
        collections (Json.Writer.write listing.record) = .ok items := by
  refine ⟨collections_of_array counted, fun listing same bounded => ?_⟩
  rw [← same]
  exact collections_of_listing bounded

def oddItems : List Collection := [
  { id := "\"\\\x00\u2028", name := "😀\n", flavour := .other, system := true
    fields := [
      { name := "\x1f/\x7f", typeTag := "select", maxSelect := 4294967295, hidden := true
        values := ["", "null", "\x7b\"items\": []\x7d"] },
      { id := "é", name := "", typeTag := "relation", required := true, collectionId := "\t" }] },
  { name := "", flavour := .view }]

theorem odd_items_counted : ∀ collection ∈ oddItems, collection.Counted := by
  have fields : ∀ collection ∈ oddItems, ∀ field ∈ collection.fields,
      field.maxSelect < Decoder.countBound := by
    decide
  exact fields

theorem written_collections_read_back_odd :
    collections (Json.Writer.write (.array (oddItems.map Collection.record))) = .ok oddItems ∧
      collections (Json.Writer.write
        (Listing.record ⟨1, 4294967295, 2, 0, oddItems⟩)) = .ok oddItems := by
  have read := written_collections_read_back oddItems odd_items_counted
  exact ⟨read.1, read.2 ⟨1, 4294967295, 2, 0, oddItems⟩ rfl
    ⟨by decide, by decide, by decide, by decide, odd_items_counted⟩⟩

end Document

end CollectionTypes
