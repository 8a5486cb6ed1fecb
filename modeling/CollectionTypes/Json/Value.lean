import CollectionTypes.Number.Double

/-!
Documents as values. An object holds each key once, in increasing order of keys, so equal documents
are equal values; a number is an integer of 64 bits or a finite double.
-/

namespace CollectionTypes.Json

inductive Number where
  | integer (value : Int)
  | double (value : Number.Double)
deriving DecidableEq, Repr

inductive Value where
  | null
  | flag (value : Bool)
  | number (value : Number)
  | text (value : String)
  | array (elements : List Value)
  | object (entries : List (String × Value))
deriving Repr, Inhabited

namespace Value

/-- Puts an entry in the place of its key; an entry that has the key already is replaced. -/
def insertEntry {α : Type} (key : String) (value : α) : List (String × α) → List (String × α)
  | [] => [(key, value)]
  | (other, kept) :: rest =>
      if key < other then (key, value) :: (other, kept) :: rest
      else if key = other then (key, value) :: rest
      else (other, kept) :: insertEntry key value rest

/-- Later entries win over earlier ones with their key. -/
def ofEntries (entries : List (String × Value)) : Value :=
  .object (entries.foldl (fun sorted (key, value) => insertEntry key value sorted) [])

def entryOf {α : Type} (key : String) (entries : List (String × α)) : Option α :=
  (entries.find? (·.1 == key)).map (·.2)

def get? (value : Value) (key : String) : Option Value :=
  match value with
  | .object entries => entryOf key entries
  | _ => none

end Value

end CollectionTypes.Json
