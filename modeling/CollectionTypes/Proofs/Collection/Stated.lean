import CollectionTypes.Collection.Document
import CollectionTypes.Proofs.Json.Decoder

/-!
What a document states of the identifiers of its collections and of the references of their fields.
A key that is left out, `null` and the empty text state nothing, and the decoder reads all three as
the empty text. The other parts of records are not described here.
-/

namespace CollectionTypes

open Json (Decoder Fault Value)

def Json.Value.stated? : Value → Option String
  | .text value => if value = "" then none else some value
  | _ => none

namespace Json.Value

theorem text_of_default {value : Value} {text : String}
    (taken : Decoder.sorted.orDefault "" Decoder.sorted.text value = .ok text) :
    text = value.stated?.getD "" := by
  cases value with
  | null =>
      cases taken
      rfl
  | text written =>
      cases taken
      rw [stated?]
      split
      · rename_i empty
        exact empty
      · rfl
  | flag | number | array | object => cases taken

theorem stated_eq (value : Value) :
    value.stated? = (some (value.stated?.getD "")).filter (· ≠ "") := by
  cases value with
  | text written => by_cases empty : written = "" <;> simp [stated?, empty, Option.filter]
  | null | flag | number | array | object => rfl

/-- No text that is stated is read as one that is not. -/
theorem stated_of_text {value other : Value}
    (same : value.stated?.getD "" = other.stated?.getD "") : value.stated? = other.stated? := by
  rw [stated_eq value, same, ← stated_eq]

end Json.Value

namespace Field

def reference? (record : Value) : Option String :=
  (record.part keys "collectionId").stated?

theorem assign_keeps {key : String} {value : Value} {field placed : Field}
    (other : key ≠ "collectionId") (assigned : assign .sorted key value field = .ok placed) :
    placed.collectionId = field.collectionId := by
  -- Any other key that is known sets another part, and one that is unknown sets nothing.
  unfold assign at assigned
  split at assigned
  all_goals first
    | exact absurd rfl other
    | (cases assigned; rfl)
    | (obtain ⟨part, taken, same⟩ := Decoder.bind_eq_ok.mp assigned; cases same; rfl)

theorem reference_of_read {record : Value} {field : Field}
    (accepted : Field.read .sorted record = .ok field) :
    field.collectionId = (reference? record).getD "" := by
  refine Json.Value.text_of_default (Decoder.part_of_record (·.collectionId) rfl
    (fun value built placed assigned => ?_) (fun key value built placed => assign_keeps)
    rfl accepted)
  obtain ⟨text, taken, same⟩ := Decoder.bind_eq_ok.mp assigned
  cases same
  exact taken

end Field

namespace Collection

def identifier? (record : Value) : Option String :=
  (record.part keys "id").stated?

def fieldRecords (record : Value) : List Value :=
  (record.part keys "fields").elements

theorem assign_keeps {key : String} {value : Value} {collection placed : Collection}
    (assigned : assign .sorted key value collection = .ok placed) :
    (key ≠ "id" → placed.id = collection.id) ∧
      (key ≠ "fields" → placed.fields = collection.fields) := by
  unfold assign at assigned
  split at assigned
  all_goals first
    | (cases assigned; exact ⟨fun _ => rfl, fun _ => rfl⟩)
    | (obtain ⟨part, taken, same⟩ := Decoder.bind_eq_ok.mp assigned
       cases same
       refine ⟨fun other => ?_, fun other => ?_⟩ <;> first | rfl | exact absurd rfl other)

theorem identifier_of_read {record : Value} {collection : Collection}
    (accepted : Collection.read .sorted record = .ok collection) :
    collection.id = (identifier? record).getD "" := by
  refine Json.Value.text_of_default (Decoder.part_of_record (·.id) rfl
    (fun value built placed assigned => ?_)
    (fun key value built placed other assigned => (assign_keeps assigned).1 other) rfl accepted)
  obtain ⟨text, taken, same⟩ := Decoder.bind_eq_ok.mp assigned
  cases same
  exact taken

/-- Each field is read from its own record. -/
theorem fields_of_read {record : Value} {collection : Collection}
    (accepted : Collection.read .sorted record = .ok collection) :
    List.Forall₂ (fun record field => Field.read .sorted record = .ok field)
      (fieldRecords record) collection.fields := by
  refine Decoder.elements_of_default_list (Decoder.part_of_record (·.fields) rfl
    (fun value built placed assigned => ?_)
    (fun key value built placed other assigned => (assign_keeps assigned).2 other) rfl accepted)
  obtain ⟨fields, taken, same⟩ := Decoder.bind_eq_ok.mp assigned
  cases same
  exact taken

end Collection

namespace Listing

theorem assign_keeps {key : String} {value : Value} {listing placed : Listing}
    (other : key ≠ "items") (assigned : assign .sorted key value listing = .ok placed) :
    placed.items = listing.items := by
  unfold assign at assigned
  split at assigned
  all_goals first
    | exact absurd rfl other
    | (cases assigned; rfl)
    | (obtain ⟨part, taken, same⟩ := Decoder.bind_eq_ok.mp assigned; cases same; rfl)

theorem items_of_read {document : Value} {listing : Listing}
    (accepted : Listing.read .sorted document = .ok listing) :
    List.Forall₂ (fun record collection => Collection.read .sorted record = .ok collection)
      (document.part keys "items").elements listing.items := by
  refine Decoder.elements_of_default_list (Decoder.part_of_record (·.items) rfl
    (fun value built placed assigned => ?_) (fun key value built placed => assign_keeps)
    rfl accepted)
  obtain ⟨items, taken, same⟩ := Decoder.bind_eq_ok.mp assigned
  cases same
  exact taken

end Listing

namespace Document

def records : Value → List Value
  | .array records => records
  | listing => (listing.part Listing.keys "items").elements

/-- What is accepted are the collections of its records, one by one. -/
theorem records_of_collections {text : String} {items : List Collection}
    (accepted : collections text = .ok items) :
    ∃ document, Json.parse text = .ok document ∧
      List.Forall₂ (fun record collection => Collection.read .sorted record = .ok collection)
        (records document) items := by
  obtain ⟨document, parsed, taken⟩ := Decoder.bind_eq_ok.mp accepted
  refine ⟨document, Decoder.ok_of_map_error parsed, ?_⟩
  cases document with
  | array elements => exact Decoder.list_eq_ok.mp (Decoder.ok_of_map_error taken)
  | object entries =>
      rw [collectionsOfValue] at taken
      split at taken
      · have listed := Decoder.ok_of_map_error taken
        cases read : Listing.read .sorted (.object entries) with
        | error fault =>
            rw [read] at listed
            cases listed
        | ok listing =>
            rw [read] at listed
            cases listed
            exact Listing.items_of_read read
      · cases taken
  | null | flag | number | text => cases taken

end Document

end CollectionTypes
