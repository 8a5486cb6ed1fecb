import CollectionTypes.Go.Types
import CollectionTypes.Text.Quoted

/-!
Methods that read and write one field of a record. The field is named by a string literal; the
static type of what a getter returns is a function of its reading alone.
-/

namespace CollectionTypes.Go

/-- How the value of a field is taken from a record. -/
inductive Reading where
  | decoded
  | enumSlice (typeName : String)
  | enum (typeName : String)
  | float
  | boolean
  | dateTime
  | stringSlice
  | string
deriving DecidableEq, Repr

namespace Reading

def ofProperty (symbols : Symbols) (property : Property) : Reading :=
  match property.kind, property.array with
  | .json, _ => .decoded
  | .enumeration, true => .enumSlice (symbols.enumName property)
  | .enumeration, false => .enum (symbols.enumName property)
  | .number, _ => .float
  | .boolean, _ => .boolean
  | .date, _ => .dateTime
  | .text, true | .file, true | .relation, true => .stringSlice
  | .text, false | .file, false | .relation, false => .string

/-- The type of the expression that the body returns. -/
def type : Reading → TypeExpr
  | .decoded => .objectMap
  | .enumSlice typeName => .slice (.named typeName)
  | .enum typeName => .named typeName
  | .float => .float
  | .boolean => .bool
  | .dateTime => .dateTime
  | .stringSlice => .slice .string
  | .string => .string

def decodedBody (field : String) : String :=
  "\tvar value map[string]any\n" ++
  "\tif err := p.UnmarshalJSONField(" ++ field ++ ", &value); err != nil \x7b\n" ++
  "\t\treturn nil\n" ++
  "\t\x7d\n" ++
  "\treturn value\n"

def enumSliceBody (field typeName : String) : String :=
  "\tvalues := p.GetStringSlice(" ++ field ++ ")\n" ++
  "\tresult := make([]" ++ typeName ++ ", len(values))\n" ++
  "\tfor i, value := range values \x7b\n" ++
  "\t\tresult[i] = " ++ typeName ++ "(value)\n" ++
  "\t\x7d\n" ++
  "\treturn result\n"

def enumBody (field typeName : String) : String :=
  "\treturn " ++ typeName ++ "(p.GetString(" ++ field ++ "))\n"

def selectedBody (selection field : String) : String :=
  "\treturn " ++ selection ++ "(" ++ field ++ ")\n"

def body (field : String) : Reading → String
  | .decoded => decodedBody field
  | .enumSlice typeName => enumSliceBody field typeName
  | .enum typeName => enumBody field typeName
  | .float => selectedBody "p.GetFloat" field
  | .boolean => selectedBody "p.GetBool" field
  | .dateTime => selectedBody "p.GetDateTime" field
  | .stringSlice => selectedBody "p.GetStringSlice" field
  | .string => selectedBody "p.GetString" field

end Reading

/-- How the value of a field is put into a record. -/
inductive Writing where
  | enumSlice
  | enum
  | plain
deriving DecidableEq, Repr

namespace Writing

def ofProperty (property : Property) : Writing :=
  match property.kind, property.array with
  | .enumeration, true => .enumSlice
  | .enumeration, false => .enum
  | _, _ => .plain

def enumSliceBody (field parameter : String) : String :=
  "\tvalues := make([]string, len(" ++ parameter ++ "))\n" ++
  "\tfor i, value := range " ++ parameter ++ " \x7b\n" ++
  "\t\tvalues[i] = string(value)\n" ++
  "\t\x7d\n" ++
  "\tp.Set(" ++ field ++ ", values)\n"

def enumBody (field parameter : String) : String :=
  "\tp.Set(" ++ field ++ ", string(" ++ parameter ++ "))\n"

def plainBody (field parameter : String) : String :=
  "\tp.Set(" ++ field ++ ", " ++ parameter ++ ")\n"

def body (field parameter : String) : Writing → String
  | .enumSlice => enumSliceBody field parameter
  | .enum => enumBody field parameter
  | .plain => plainBody field parameter

end Writing

/-- How the records of a relation are loaded: one or many, of a known type or of none. -/
inductive Expansion where
  | many (typeName : String)
  | one (typeName : String)
  | manyUntyped
  | oneUntyped
deriving DecidableEq, Repr

namespace Expansion

def ofProperty (symbols : Symbols) (property : Property) : Expansion :=
  match property.relationTarget?, property.array with
  | some target, true => .many (symbols.typeName target)
  | some target, false => .one (symbols.typeName target)
  | none, true => .manyUntyped
  | none, false => .oneUntyped

def recordType : TypeExpr := .pointer (.named "core.Record")

/-- The first result; the second is an error. -/
def type : Expansion → TypeExpr
  | .many typeName => .slice (.pointer (.named typeName))
  | .one typeName => .pointer (.named typeName)
  | .manyUntyped => .slice recordType
  | .oneUntyped => recordType

def load (field : String) : String :=
  "\terrs := app.ExpandRecord(p.Record, []string\x7b" ++ field ++ "\x7d, nil)\n" ++
  "\tif err := errs[" ++ field ++ "]; err != nil \x7b\n" ++
  "\t\treturn nil, err\n" ++
  "\t\x7d\n"

def pickMany (field typeName : String) : String :=
  "\trecords := p.ExpandedAll(" ++ field ++ ")\n" ++
  "\tresult := make([]*" ++ typeName ++ ", len(records))\n" ++
  "\tfor i, record := range records \x7b\n" ++
  "\t\tresult[i] = " ++ Target.wrapName typeName ++ "(record)\n" ++
  "\t\x7d\n" ++
  "\treturn result, nil\n"

def pickOne (field typeName : String) : String :=
  "\trecord := p.ExpandedOne(" ++ field ++ ")\n" ++
  "\tif record == nil \x7b\n" ++
  "\t\treturn nil, nil\n" ++
  "\t\x7d\n" ++
  "\treturn " ++ Target.wrapName typeName ++ "(record), nil\n"

def pickUntyped (selection field : String) : String :=
  "\treturn " ++ selection ++ "(" ++ field ++ "), nil\n"

def pick (field : String) : Expansion → String
  | .many typeName => pickMany field typeName
  | .one typeName => pickOne field typeName
  | .manyUntyped => pickUntyped "p.ExpandedAll" field
  | .oneUntyped => pickUntyped "p.ExpandedOne" field

def body (field : String) (expansion : Expansion) : String := load field ++ expansion.pick field

end Expansion

/-- A method of a record type: its name, its parameters, its result and what it does. -/
inductive Method where
  | getter (name : String) (field : String) (result : TypeExpr) (reading : Reading)
  | integerGetter (name : String) (field : String)
  | setter (name : String) (field : String) (parameter : String) (type : TypeExpr)
      (writing : Writing)
  | expander (name : String) (field : String) (expansion : Expansion)
deriving DecidableEq, Repr

namespace Method

def name : Method → String
  | .getter name _ _ _ | .integerGetter name _ | .setter name _ _ _ _ | .expander name _ _ => name

def head (receiver name : String) : String := "func (p *" ++ receiver ++ ") " ++ name

def getterTail (field : String) (result : TypeExpr) (reading : Reading) : String :=
  "() " ++ result.write ++ " \x7b\n" ++ reading.body (Text.Quoted.literal field) ++ "\x7d"

def integerTail (field : String) : String :=
  "() int \x7b\n\treturn p.GetInt(" ++ Text.Quoted.literal field ++ ")\n\x7d"

def setterTail (field parameter : String) (type : TypeExpr) (writing : Writing) : String :=
  "(" ++ parameter ++ " " ++ type.write ++ ") \x7b\n" ++
    writing.body (Text.Quoted.literal field) parameter ++ "\x7d"

def expanderTail (field : String) (expansion : Expansion) : String :=
  "(app core.App) (" ++ expansion.type.write ++ ", error) \x7b\n" ++
    expansion.body (Text.Quoted.literal field) ++ "\x7d"

/-- What follows the name of a method: its parameters, its result and its body. -/
def tail : Method → String
  | .getter _ field result reading => getterTail field result reading
  | .integerGetter _ field => integerTail field
  | .setter _ field parameter type writing => setterTail field parameter type writing
  | .expander _ field expansion => expanderTail field expansion

def write (receiver : String) (method : Method) : String :=
  head receiver method.name ++ method.tail

end Method

/-- The type in which a field is read and written. -/
def valueType (symbols : Symbols) (property : Property) : TypeExpr :=
  let element := match property.kind with
    | .number => .float
    | .boolean => .bool
    | .date => .dateTime
    | .json => .objectMap
    | .enumeration => .named (symbols.enumName property)
    | .text | .file | .relation => .string
  if property.array then .slice element else element

end CollectionTypes.Go
