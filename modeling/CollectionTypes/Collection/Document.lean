import CollectionTypes.Collection.Record
import CollectionTypes.Directory.Content

/-!
Documents of collections: the array of an export, or the object of a listing.
-/

namespace CollectionTypes

open Json (Fault Value)

inductive DocumentError where
  | json (fault : Fault)
  | invalidStructure (reason : String)
  | file (fault : FileFault)
deriving DecidableEq, Repr

namespace DocumentError

def message : DocumentError → String
  | .json fault => "JSON parsing error: " ++ fault.message
  | .invalidStructure reason => "invalid schema structure: " ++ reason
  | .file fault => "IO error: " ++ fault.message

def missingItems : DocumentError :=
  .invalidStructure "expected an 'items' array in the collections document"

def scalarDocument : DocumentError :=
  .invalidStructure "collections document must be an array or an object"

end DocumentError

namespace Document

def collectionsOfValue (document : Value) : Except DocumentError (List Collection) :=
  match document with
  | .array _ =>
      (Json.Decoder.sorted.list (Collection.read .sorted) document).mapError .json
  | .object entries =>
      if entries.any (·.1 == "items") then
        ((Listing.read .sorted document).map (·.items)).mapError .json
      else .error .missingItems
  | _ => .error .scalarDocument

/-- The collections of a document, in document order. -/
def collections (text : String) : Except DocumentError (List Collection) := do
  let document ← (Json.parse text).mapError .json
  collectionsOfValue document

end Document

end CollectionTypes
