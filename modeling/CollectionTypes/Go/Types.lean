import CollectionTypes.Generator.Symbols

/-!
Types of fields in Go. Pointers, slices and maps have an empty value of their own; any other type
needs a pointer to tell an absent value from an empty one.
-/

namespace CollectionTypes.Go

inductive TypeExpr where
  | named (name : String)
  | objectMap
  | pointer (target : TypeExpr)
  | slice (element : TypeExpr)
deriving DecidableEq, Repr

namespace TypeExpr

def write : TypeExpr → String
  | .named name => name
  | .objectMap => "map[string]any"
  | .pointer target => "*" ++ target.write
  | .slice element => "[]" ++ element.write

def string : TypeExpr := .named "string"

def float : TypeExpr := .named "float64"

def bool : TypeExpr := .named "bool"

def dateTime : TypeExpr := .named "types.DateTime"

def isNilable : TypeExpr → Bool
  | .named _ => false
  | .objectMap | .pointer _ | .slice _ => true

end TypeExpr

/-- The record that a relation points to. -/
def resolvedType (symbols : Symbols) (property : Property) : TypeExpr :=
  match property.relationTarget? with
  | some target => .pointer (.named (symbols.typeName target))
  | none => .objectMap

def elementType (style : Style) (symbols : Symbols) (property : Property) : TypeExpr :=
  match property.kind with
  | .text | .file => .string
  | .number => .float
  | .boolean => .bool
  | .date => .dateTime
  | .json => .objectMap
  | .enumeration => .named (symbols.enumName property)
  | .relation => if style.relationIds then .string else resolvedType symbols property

def typeOf (style : Style) (symbols : Symbols) (property : Property) : TypeExpr :=
  let element := elementType style symbols property
  let explicit := property.optional && style.explicitOptional
  if property.array then if explicit then .pointer (.slice element) else .slice element
  else if explicit && !element.isNilable then .pointer element
  else element

def expandType (symbols : Symbols) (property : Property) : TypeExpr :=
  let element := resolvedType symbols property
  if property.array then .slice element else element

/-- The tag that names the key of a field in JSON. -/
def jsonTag (name : String) (omitEmpty : Bool) : String :=
  "`json:\"" ++ name ++ (if omitEmpty then ",omitempty" else "") ++ "\"`"

end CollectionTypes.Go
