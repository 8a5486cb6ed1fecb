import CollectionTypes.Collection.Basic

/-!
What a field means, whatever its type tag is called. Tags that nobody knows mean text.
-/

namespace CollectionTypes

inductive Kind where
  | text
  | number
  | boolean
  | json
  | file
  | enumeration
  | relation
  | date
deriving DecidableEq, Repr, Inhabited

namespace Kind

def ofTag : String → Kind
  | "number" => .number
  | "bool" => .boolean
  | "select" => .enumeration
  | "json" => .json
  | "file" => .file
  | "relation" => .relation
  | "date" => .date
  | "autodate" => .date
  | _ => .text

def name : Kind → String
  | .text => "String"
  | .number => "Number"
  | .boolean => "Boolean"
  | .json => "Json"
  | .file => "File"
  | .enumeration => "Enum"
  | .relation => "Relation"
  | .date => "Date"

/-- Whether a field of this kind can hold several values. -/
def supportsMultiple : Kind → Bool
  | .enumeration | .relation | .file => true
  | _ => false

end Kind

def Field.kind (field : Field) : Kind := Kind.ofTag field.typeTag

end CollectionTypes
