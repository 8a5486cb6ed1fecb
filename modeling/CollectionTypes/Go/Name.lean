import CollectionTypes.Naming.Namespace
import CollectionTypes.Naming.Pascal

/-!
Names in Go: exported names for declarations, fields and methods, and names of parameters.
-/

namespace CollectionTypes.Go

/-- Keywords and predeclared identifiers. -/
def reserved : List String := [
    "break", "case", "chan", "const", "continue", "default", "defer", "else", "fallthrough", "for",
    "func", "go", "goto", "if", "import", "interface", "map", "package", "range", "return",
    "select", "struct", "switch", "type", "var", "any", "append", "bool", "byte", "cap", "clear",
    "close", "comparable", "complex", "complex64", "complex128", "copy", "delete", "error",
    "false", "float32", "float64", "imag", "int", "int8", "int16", "int32", "int64", "iota",
    "len", "make", "max", "min", "new", "nil", "panic", "print", "println", "real", "recover",
    "rune", "string", "true", "uint", "uint8", "uint16", "uint32", "uint64", "uintptr"
  ]

def isReserved (name : String) : Bool := reserved.contains name

def exportedName (name : String) : String :=
  Naming.leadingLetter "X" "X" (Naming.pascalLetters name)

/-- A name that is reserved, in use by the body or no identifier gets an underscore in front. -/
def parameterName (name : String) (taken : List String) : String :=
  let letters := Naming.camelLetters name
  let camel := String.ofList letters
  let startsBadly := match letters with
    | [] => true
    | first :: _ => first.isDigit
  if startsBadly || isReserved camel || taken.contains camel then "_" ++ camel else camel

/-- The constants of an enumeration type, one for each literal. -/
def constantNames (typeName : String) (literals : List String) : List String :=
  uniqueNames (fun literal => typeName ++ exportedName literal) literals

end CollectionTypes.Go
