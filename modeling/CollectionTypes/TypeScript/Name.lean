import CollectionTypes.Naming.Pascal
import CollectionTypes.Text.Quoted

/-!
Names in TypeScript. A property name stands bare if it is an identifier that is not reserved, and as
a string literal otherwise.
-/

namespace CollectionTypes.TypeScript

def reserved : List String := [
    "any", "as", "boolean", "break", "case", "catch", "class", "const", "constructor", "continue",
    "debugger", "declare", "default", "delete", "do", "else", "enum", "export", "extends",
    "false", "finally", "for", "from", "function", "get", "if", "implements", "import", "in",
    "instanceof", "interface", "let", "module", "never", "new", "null", "number", "object",
    "package", "private", "protected", "public", "require", "return", "set", "static", "string",
    "super", "switch", "symbol", "this", "throw", "true", "try", "type", "typeof", "undefined",
    "unknown", "var", "void", "while", "with", "yield"
  ]

def isReserved (name : String) : Bool := reserved.contains name

def isNameStart (letter : Char) : Bool := letter.isAlpha || letter = '_' || letter = '$'

def isNamePart (letter : Char) : Bool := isNameStart letter || letter.isDigit

def isIdentifierLetters : List Char → Bool
  | [] => false
  | first :: rest => isNameStart first && rest.all isNamePart

def isIdentifier (name : String) : Bool := isIdentifierLetters name.toList

def propertyName (name : String) : String :=
  if isIdentifier name && !isReserved name then name else Text.Quoted.literal name

def enumMember (literal : String) : String :=
  Naming.leadingLetter "_" "_" (Naming.pascalLetters literal)

end CollectionTypes.TypeScript
