import CollectionTypes.Go.Accessor
import CollectionTypes.Go.Struct

/-!
Record types in Go: a wrapper around the record of the server library, with methods for its fields
and functions that make and find records. The names of methods share one namespace, in which the
members of the wrapped record are taken from the start.
-/

namespace CollectionTypes.Go.Record

/-- Members of the wrapped record that bodies or callers select. -/
def proxyMembers : List String := [
    "Record", "ProxyRecord", "SetProxyRecord", "Get", "Set", "GetString", "GetFloat", "GetInt",
    "GetBool", "GetDateTime", "GetStringSlice", "UnmarshalJSONField", "ExpandedOne", "ExpandedAll"
  ]

/-- Receiver and local variables of the bodies, which no parameter may hide. -/
def locals : List String := ["p", "app", "i", "value", "values", "result", "err", "errs"]

/-- Fields that the server sets itself. -/
def readOnlyFields : List String := ["created", "updated"]

def isReadOnly (property : Property) : Bool := readOnlyFields.contains property.name

def hasIntegerGetter (property : Property) : Bool :=
  property.kind == .number && !property.array

/-- Claims a name only if it is wanted. -/
def claimIf (wanted : Bool) (space : Namespace) (stem : String) : Option String × Namespace :=
  if wanted then
    let (name, next) := space.claim stem
    (some name, next)
  else (none, space)

/-- The methods of one field. All further names are made from that of the getter. -/
def methodsOf (symbols : Symbols) (space : Namespace) (property : Property) :
    List Method × Namespace :=
  let (getter, afterGetter) := space.claim (exportedName property.name)
  let (integer, afterInteger) :=
    claimIf (hasIntegerGetter property) afterGetter (getter ++ "Int")
  let (setter, afterSetter) := claimIf (!isReadOnly property) afterInteger ("Set" ++ getter)
  let (expand, afterExpand) := claimIf property.isRelation afterSetter ("Expand" ++ getter)
  let type := valueType symbols property
  let methods :=
    [Method.getter getter property.name type (.ofProperty symbols property)] ++
    (integer.map fun name => Method.integerGetter name property.name).toList ++
    (setter.map fun name =>
      Method.setter name property.name (parameterName property.name locals) type
        (.ofProperty property)).toList ++
    (expand.map fun name =>
      Method.expander name property.name (.ofProperty symbols property)).toList
  (methods, afterExpand)

def allMethods (symbols : Symbols) : Namespace → List Property → List Method
  | _, [] => []
  | space, property :: rest =>
      let (methods, next) := methodsOf symbols space property
      methods ++ allMethods symbols next rest

def methods (symbols : Symbols) (model : Model) : List Method :=
  allMethods symbols ⟨proxyMembers⟩ model.properties

def returnOnError : String := "\tif err != nil \x7b\n\t\treturn nil, err\n\t\x7d\n"

def wrapFunction (name : String) : String :=
  "func " ++ Target.wrapName name ++ "(record *core.Record) *" ++ name ++ " \x7b\n" ++
  "\tresult := &" ++ name ++ "\x7b\x7d\n" ++
  "\tresult.SetProxyRecord(record)\n" ++
  "\treturn result\n\x7d"

def newFunction (name : String) : String :=
  "func " ++ Target.newName name ++ "(app core.App) (*" ++ name ++ ", error) \x7b\n" ++
  "\tcollection, err := app.FindCachedCollectionByNameOrId(" ++ Target.collectionConstant name ++
    ")\n" ++
  returnOnError ++
  "\treturn " ++ Target.wrapName name ++ "(core.NewRecord(collection)), nil\n\x7d"

def findByIdFunction (name : String) : String :=
  "func " ++ Target.findByIdName name ++ "(app core.App, id string) (*" ++ name ++
    ", error) \x7b\n" ++
  "\trecord, err := app.FindRecordById(" ++ Target.collectionConstant name ++ ", id)\n" ++
  returnOnError ++
  "\treturn " ++ Target.wrapName name ++ "(record), nil\n\x7d"

def findFirstFunction (name : String) : String :=
  "func " ++ Target.findFirstName name ++ "(app core.App, key string, value any) (*" ++ name ++
    ", error) \x7b\n" ++
  "\trecord, err := app.FindFirstRecordByData(" ++ Target.collectionConstant name ++
    ", key, value)\n" ++
  returnOnError ++
  "\treturn " ++ Target.wrapName name ++ "(record), nil\n\x7d"

def findByFilterFunction (name : String) : String :=
  "func " ++ Target.findByFilterName name ++ "(app core.App, filter string, sort string, " ++
    "limit int, offset int, params ...dbx.Params) ([]*" ++ name ++ ", error) \x7b\n" ++
  "\trecords, err := app.FindRecordsByFilter(" ++ Target.collectionConstant name ++
    ", filter, sort, limit, offset, params...)\n" ++
  returnOnError ++
  "\tresult := make([]*" ++ name ++ ", len(records))\n" ++
  "\tfor i, record := range records \x7b\n" ++
  "\t\tresult[i] = " ++ Target.wrapName name ++ "(record)\n" ++
  "\t\x7d\n" ++
  "\treturn result, nil\n\x7d"

def collectionConstantBlock (name collection : String) : String :=
  "const " ++ Target.collectionConstant name ++ " = " ++ Text.Quoted.literal collection

def typeBlock (name : String) : String :=
  "type " ++ name ++ " struct \x7b\n\tcore.BaseRecordProxy\n\x7d"

def functionBlocks (name : String) : List String :=
  [wrapFunction name, newFunction name, findByIdFunction name, findFirstFunction name,
    findByFilterFunction name]

def blocks (symbols : Symbols) (model : Model) : List String :=
  let name := symbols.typeName model.name
  model.distinctEnums.map (fun property => (Enumeration.ofProperty symbols property).write) ++
    [collectionConstantBlock name model.name, typeBlock name] ++
    (methods symbols model).map (·.write name) ++
    functionBlocks name

end CollectionTypes.Go.Record
