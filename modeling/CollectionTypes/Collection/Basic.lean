import CollectionTypes.Text.Digits

/-!
Collections as a server defines them: named lists of fields. Whatever a definition leaves out has
the default given here.
-/

namespace CollectionTypes

structure Field where
  id : String := ""
  name : String := ""
  /-- The type tag: `text`, `number`, `select` and so on, or one that nobody knows. -/
  typeTag : String := ""
  required : Bool := false
  /-- The collection that a relation points to, by its identifier. -/
  collectionId : String := ""
  maxSelect : Nat := 0
  /-- The literals that a select field allows. -/
  values : List String := []
  hidden : Bool := false
deriving DecidableEq, Repr, Inhabited

inductive Flavour where
  | base
  | auth
  | view
  | other
deriving DecidableEq, Repr, Inhabited

namespace Flavour

def name : Flavour → String
  | .base => "base"
  | .auth => "auth"
  | .view => "view"
  | .other => "other"

def ofName : String → Flavour
  | "base" => .base
  | "auth" => .auth
  | "view" => .view
  | _ => .other

theorem ofName_name (flavour : Flavour) : ofName flavour.name = flavour := by
  cases flavour <;> rfl

end Flavour

structure Collection where
  id : String := ""
  name : String := ""
  flavour : Flavour := .base
  system : Bool := false
  fields : List Field := []
deriving DecidableEq, Repr, Inhabited

namespace Collection

def field? (collection : Collection) (name : String) : Option Field :=
  collection.fields.find? (·.name == name)

def describe (collection : Collection) : String :=
  let count := Text.Decimal.write collection.fields.length ++ " fields)"
  if collection.system then collection.name ++ " (System, " ++ count
  else collection.name ++ " (" ++ count

end Collection

/-- One page of the collections of a server. -/
structure Listing where
  page : Nat := 0
  perPage : Nat := 0
  totalItems : Nat := 0
  totalPages : Nat := 0
  items : List Collection := []
deriving DecidableEq, Repr, Inhabited

end CollectionTypes
