import CollectionTypes.Generator.Symbols
import CollectionTypes.TypeScript.Name

/-!
Types of members in TypeScript. Arrays are of elements that are never unions themselves; an empty
JSON value may also be null or the empty string.
-/

namespace CollectionTypes.TypeScript

inductive Element where
  | string
  | number
  | boolean
  | object
  | named (name : String)
deriving DecidableEq, Repr

def Element.write : Element → String
  | .string => "string"
  | .number => "number"
  | .boolean => "boolean"
  | .object => "object"
  | .named name => name

inductive TypeExpr where
  | plain (element : Element)
  | array (element : Element)
  | emptyable (element : Element)
deriving DecidableEq, Repr

def TypeExpr.write : TypeExpr → String
  | .plain element => element.write
  | .array element => element.write ++ "[]"
  | .emptyable element => element.write ++ " | null | \"\""

/-- The record that a relation points to. -/
def resolvedElement (symbols : Symbols) (property : Property) : Element :=
  match property.relationTarget? with
  | some target => .named (symbols.typeName target)
  | none => .object

def elementType (style : Style) (symbols : Symbols) (property : Property) : Element :=
  match property.kind with
  | .text | .file | .date => .string
  | .number => .number
  | .boolean => .boolean
  | .json => .object
  | .enumeration => .named (symbols.enumName property)
  | .relation => if style.relationIds then .string else resolvedElement symbols property

def compose (property : Property) (element : Element) : TypeExpr :=
  if property.array then .array element
  else if property.optional && property.kind == .json then .emptyable element
  else .plain element

def typeOf (style : Style) (symbols : Symbols) (property : Property) : TypeExpr :=
  compose property (elementType style symbols property)

structure Member where
  name : String
  optional : Bool
  type : TypeExpr
deriving DecidableEq, Repr

namespace Member

def write (member : Member) : String :=
  propertyName member.name ++ (if member.optional then "?" else "") ++ ": " ++
    member.type.write ++ ";"

def ofProperty (style : Style) (symbols : Symbols) (property : Property) : Member :=
  ⟨property.name, property.optional, typeOf style symbols property⟩

/-- In an expansion every record may be absent. -/
def ofExpansion (symbols : Symbols) (property : Property) : Member :=
  ⟨property.name, true, compose property (resolvedElement symbols property)⟩

end Member

end CollectionTypes.TypeScript
