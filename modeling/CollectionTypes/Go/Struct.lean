import CollectionTypes.Go.Types
import CollectionTypes.Text.Quoted

/-!
Enumerations and structs in Go, and those that a model gives rise to.
-/

namespace CollectionTypes.Go

/-- A string type with a constant for each literal. -/
structure Enumeration where
  name : String
  constants : List (String × String)
deriving DecidableEq, Repr

namespace Enumeration

def constantText (name : String) (constant : String × String) : String :=
  "\t" ++ constant.1 ++ " " ++ name ++ " = " ++ Text.Quoted.literal constant.2 ++ "\n"

def write (enumeration : Enumeration) : String :=
  let head := "type " ++ enumeration.name ++ " string"
  match enumeration.constants with
  | [] => head
  | constants =>
      head ++ "\n\nconst (\n" ++ String.join (constants.map (constantText enumeration.name)) ++ ")"

def ofProperty (symbols : Symbols) (property : Property) : Enumeration :=
  let name := symbols.enumName property
  ⟨name, (constantNames name property.options).zip property.options⟩

end Enumeration

structure StructField where
  name : String
  type : TypeExpr
  key : String
  omitEmpty : Bool
deriving DecidableEq, Repr

def StructField.write (field : StructField) : String :=
  field.name ++ " " ++ field.type.write ++ " " ++ jsonTag field.key field.omitEmpty

structure Struct where
  name : String
  fields : List StructField
deriving DecidableEq, Repr

namespace Struct

def write (struct : Struct) : String :=
  "type " ++ struct.name ++ " struct \x7b\n" ++
    String.join (struct.fields.map fun field => "\t" ++ field.write ++ "\n") ++ "\x7d"

/-- Fields whose names meet get suffixes, the first of them keeps its name. -/
def distinguish (fields : List StructField) : List StructField :=
  let (names, _) := ({} : Namespace).claimAll (fields.map (·.name))
  List.zipWith (fun name field => { field with name := name }) names fields

/-- The field that holds the expanded relations, and its key. -/
def expandField : String := "Expand"

def expandKey : String := "expand"

def hasExpandField (model : Model) : Bool :=
  model.hasRelations && !model.hasProperty expandKey

def propertyField (style : Style) (symbols : Symbols) (property : Property) : StructField :=
  ⟨exportedName property.name, typeOf style symbols property, property.name, property.optional⟩

def expandFieldOf (symbols : Symbols) (model : Model) : StructField :=
  ⟨expandField, .pointer (.named (symbols.expandName model.name)), expandKey, true⟩

def ofModel (style : Style) (symbols : Symbols) (model : Model) : Struct :=
  let fields := model.properties.map (propertyField style symbols) ++
    if hasExpandField model then [expandFieldOf symbols model] else []
  ⟨symbols.typeName model.name, distinguish fields⟩

def expansionField (symbols : Symbols) (property : Property) : StructField :=
  ⟨exportedName property.name, expandType symbols property, property.name, true⟩

def expansionOf (symbols : Symbols) (model : Model) : Struct :=
  ⟨symbols.expandName model.name, distinguish (model.relations.map (expansionField symbols))⟩

/-- The blocks of a model: its enumerations, its struct and the struct of its expansion. -/
def blocks (style : Style) (symbols : Symbols) (model : Model) : List String :=
  model.distinctEnums.map (fun property => (Enumeration.ofProperty symbols property).write) ++
    [(ofModel style symbols model).write] ++
    if model.hasRelations then [(expansionOf symbols model).write] else []

def warnings (model : Model) : List Warning :=
  if model.hasRelations && model.hasProperty expandKey then [.expandFieldSkipped model.name]
  else []

end Struct

end CollectionTypes.Go
