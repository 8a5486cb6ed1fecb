import CollectionTypes.Naming.Pascal
import CollectionTypes.Property.Kind

/-!
Properties are fields with their meaning settled, and models are collections of properties. All
that is generated is written from models alone.
-/

namespace CollectionTypes

/-- What a relation points to: a collection by name, or an identifier that no collection has. -/
inductive RelationTarget where
  | resolved (collection : String)
  | unresolved (collectionId : String)
deriving DecidableEq, Repr

inductive PropertyData where
  | plain
  | options (literals : List String)
  | relation (target : RelationTarget)
deriving DecidableEq, Repr

structure Property where
  name : String
  /-- The name of the collection. -/
  owner : String
  optional : Bool := false
  kind : Kind
  array : Bool := false
  data : PropertyData
deriving DecidableEq, Repr

namespace Property

def emptyData : Kind → PropertyData
  | .enumeration => .options []
  | .relation => .relation (.unresolved "")
  | _ => .plain

/-- A required single value of a kind, without options and without a target. -/
def ofKind (name owner : String) (kind : Kind) : Property :=
  { name := name, owner := owner, kind := kind, data := emptyData kind }

def options (property : Property) : List String :=
  match property.data with
  | .options literals => literals
  | _ => []

def relationTarget? (property : Property) : Option String :=
  match property.data with
  | .relation (.resolved collection) => some collection
  | _ => none

def isEnumeration (property : Property) : Bool := property.kind == .enumeration

def isRelation (property : Property) : Bool := property.kind == .relation

def enumTypeName (property : Property) : String :=
  Naming.pascal (property.owner ++ "_" ++ property.name ++ "_options")

def traits (property : Property) : List String :=
  [property.kind.name] ++
    (if property.optional then ["Optional"] else []) ++
    (if property.array then ["Array"] else []) ++
    match property.data with
    | .plain => []
    | .options literals => ["Enum Data [" ++ ", ".intercalate literals ++ "]"]
    | .relation (.resolved collection) => ["Relation to " ++ collection]
    | .relation (.unresolved _) => ["Relation to unknown (object)"]

def describe (property : Property) : String :=
  property.name ++ " (" ++ ", ".intercalate property.traits ++ ")"

end Property

structure Model where
  collection : Collection
  properties : List Property
deriving DecidableEq, Repr

namespace Model

def name (model : Model) : String := model.collection.name

def relations (model : Model) : List Property := model.properties.filter (·.isRelation)

def hasRelations (model : Model) : Bool := !model.relations.isEmpty

/-- The first property of each name, in order. -/
def firstOfName (seen : List String) : List Property → List Property
  | [] => []
  | property :: rest =>
      if seen.contains property.name then firstOfName seen rest
      else property :: firstOfName (property.name :: seen) rest

/-- The enumerations to declare: one for each field name. -/
def distinctEnums (model : Model) : List Property :=
  firstOfName [] (model.properties.filter (·.isEnumeration))

def hasProperty (model : Model) (name : String) : Bool := model.properties.any (·.name == name)

end Model

end CollectionTypes
