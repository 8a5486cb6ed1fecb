import CollectionTypes.Collection.Basic
import CollectionTypes.Json.Decoder

/-!
Fields, collections and listings as records of a document, read by either decoder and written as
values.
-/

namespace CollectionTypes

open Json (Decoder Fault Value)

namespace Field

def keys : List String :=
  ["id", "name", "type", "required", "collectionId", "maxSelect", "values", "hidden"]

def assign {Source : Type} (decoder : Decoder Source) (key : String) (source : Source)
    (field : Field) : Except Fault Field :=
  match key with
  | "id" => do return { field with id := ← decoder.orDefault "" decoder.text source }
  | "name" => do return { field with name := ← decoder.text source }
  | "type" => do return { field with typeTag := ← decoder.orDefault "" decoder.text source }
  | "required" => do return { field with required := ← decoder.orDefault false decoder.flag source }
  | "collectionId" => do
      return { field with collectionId := ← decoder.orDefault "" decoder.text source }
  | "maxSelect" => do return { field with maxSelect := ← decoder.orDefault 0 decoder.count source }
  | "values" => do
      return { field with values := ← decoder.orDefault [] (decoder.list decoder.text) source }
  | "hidden" => do return { field with hidden := ← decoder.orDefault false decoder.flag source }
  | _ => .ok field

def read {Source : Type} (decoder : Decoder Source) : Source → Except Fault Field :=
  decoder.record ⟨"RawField", keys, ["name"], {}, assign decoder⟩

def toValue (field : Field) : Value :=
  .ofEntries [
    ("id", .text field.id),
    ("name", .text field.name),
    ("type", .text field.typeTag),
    ("required", .flag field.required),
    ("collectionId", .text field.collectionId),
    ("maxSelect", .number (.integer field.maxSelect)),
    ("values", .array (field.values.map .text)),
    ("hidden", .flag field.hidden)]

end Field

namespace Collection

def keys : List String := ["id", "name", "type", "system", "fields"]

def readFlavour {Source : Type} (decoder : Decoder Source) (source : Source) :
    Except Fault Flavour := do
  return Flavour.ofName (← decoder.variant source)

def assign {Source : Type} (decoder : Decoder Source) (key : String) (source : Source)
    (collection : Collection) : Except Fault Collection :=
  match key with
  | "id" => do return { collection with id := ← decoder.orDefault "" decoder.text source }
  | "name" => do return { collection with name := ← decoder.text source }
  | "type" => do
      return { collection with flavour := ← decoder.orDefault .base (readFlavour decoder) source }
  | "system" => do
      return { collection with system := ← decoder.orDefault false decoder.flag source }
  | "fields" => do
      let fields ← decoder.orDefault [] (decoder.list (Field.read decoder)) source
      return { collection with fields := fields }
  | _ => .ok collection

def read {Source : Type} (decoder : Decoder Source) : Source → Except Fault Collection :=
  decoder.record ⟨"RawCollection", keys, ["name"], {}, assign decoder⟩

def toValue (collection : Collection) : Value :=
  .ofEntries [
    ("id", .text collection.id),
    ("name", .text collection.name),
    ("type", .text collection.flavour.name),
    ("system", .flag collection.system),
    ("fields", .array (collection.fields.map Field.toValue))]

end Collection

namespace Listing

def keys : List String := ["page", "perPage", "totalItems", "totalPages", "items"]

def assign {Source : Type} (decoder : Decoder Source) (key : String) (source : Source)
    (listing : Listing) : Except Fault Listing :=
  match key with
  | "page" => do return { listing with page := ← decoder.orDefault 0 decoder.count source }
  | "perPage" => do return { listing with perPage := ← decoder.orDefault 0 decoder.count source }
  | "totalItems" => do
      return { listing with totalItems := ← decoder.orDefault 0 decoder.count source }
  | "totalPages" => do
      return { listing with totalPages := ← decoder.orDefault 0 decoder.count source }
  | "items" => do
      let items ← decoder.orDefault [] (decoder.list (Collection.read decoder)) source
      return { listing with items := items }
  | _ => .ok listing

def read {Source : Type} (decoder : Decoder Source) : Source → Except Fault Listing :=
  decoder.record ⟨"CollectionsResponse", keys, [], {}, assign decoder⟩

def toValue (listing : Listing) : Value :=
  .ofEntries [
    ("page", .number (.integer listing.page)),
    ("perPage", .number (.integer listing.perPage)),
    ("totalItems", .number (.integer listing.totalItems)),
    ("totalPages", .number (.integer listing.totalPages)),
    ("items", .array (listing.items.map Collection.toValue))]

/-- A listing as the body of a reply, decoded straight from its text. -/
def ofText (text : String) : Except Fault Listing := Json.decodeText (read Decoder.textual) text

end Listing

end CollectionTypes
