import CollectionTypes.Go.Record
import CollectionTypes.Text.Basic

/-!
The part of Go that the methods of record types are written in, with its static types. A name means
the local variable of that name, else what the package declares, else what the file imports, else
what the language has declared before; a declaration thus hides a type of the language from
everything that is written in the package. Whether a variable is used, and whether a name is
declared twice, is no part of this.
-/

namespace CollectionTypes.Go

namespace TypeExpr

def int : TypeExpr := .named "int"

def error : TypeExpr := .named "error"

def app : TypeExpr := .named "core.App"

end TypeExpr

inductive Atom where
  | nil
  | literal (value : String)
  | texts (value : String)
  | variable (name : String)
  | address (name : String)
  | field (base name : String)
  | applied (name argument : String)
deriving DecidableEq, Repr

/-- What has a value. The one form of an application is a call of a function, or a conversion. -/
inductive Term where
  | plain (value : Atom)
  | call (base name : String) (arguments : List Atom)
  | applied (name : String) (value : Term)
  | slots (element : TypeExpr) (values : String)
  | entry (name : String) (key : Atom)
  | fresh (typeName : String)
deriving DecidableEq, Repr

inductive Statement where
  | declare (name : String) (type : TypeExpr)
  | define (name : String) (value : Term)
  | run (base name : String) (arguments : List Atom)
  | guard (name : String) (value : Term) (returned : List Term)
  | absent (name : String) (returned : List Term)
  | fill (slots key value values : String) (entry : Term)
deriving DecidableEq, Repr

/-- What follows the name of a function or a method. -/
structure Code where
  parameters : List (String × TypeExpr) := []
  results : List TypeExpr := []
  statements : List Statement := []
  returned : List Term := []
deriving DecidableEq, Repr

/-! How code is written. -/

@[simp]
def Atom.write : Atom → String
  | .nil => "nil"
  | .literal value => Text.Quoted.literal value
  | .texts value => "[]string\x7b" ++ Text.Quoted.literal value ++ "\x7d"
  | .variable name => name
  | .address name => "&" ++ name
  | .field base name => base ++ "." ++ name
  | .applied name argument => name ++ "(" ++ argument ++ ")"

@[simp]
def writeCall (base name : String) (arguments : List Atom) : String :=
  base ++ "." ++ name ++ "(" ++ ", ".intercalate (arguments.map Atom.write) ++ ")"

@[simp]
def Term.write : Term → String
  | .plain value => value.write
  | .call base name arguments => writeCall base name arguments
  | .applied name value => name ++ "(" ++ value.write ++ ")"
  | .slots element values =>
      "make(" ++ (TypeExpr.slice element).write ++ ", len(" ++ values ++ "))"
  | .entry name key => name ++ "[" ++ key.write ++ "]"
  | .fresh typeName => "&" ++ typeName ++ "\x7b\x7d"

@[simp]
def writeReturn (returned : List Term) : String :=
  "return " ++ ", ".intercalate (returned.map Term.write) ++ "\n"

def Statement.write : Statement → String
  | .declare name type => "\tvar " ++ name ++ " " ++ type.write ++ "\n"
  | .define name value => "\t" ++ name ++ " := " ++ value.write ++ "\n"
  | .run base name arguments => "\t" ++ writeCall base name arguments ++ "\n"
  | .guard name value returned =>
      "\tif " ++ name ++ " := " ++ value.write ++ "; " ++ name ++ " != nil \x7b\n\t\t" ++
        writeReturn returned ++ "\t\x7d\n"
  | .absent name returned =>
      "\tif " ++ name ++ " == nil \x7b\n\t\t" ++ writeReturn returned ++ "\t\x7d\n"
  | .fill slots key value values entry =>
      "\tfor " ++ key ++ ", " ++ value ++ " := range " ++ values ++ " \x7b\n\t\t" ++
        slots ++ "[" ++ key ++ "] = " ++ entry.write ++ "\n\t\x7d\n"

section Writing

variable (name : String) (value : Term) (returned : List Term)

@[simp]
theorem write_declare (type : TypeExpr) :
    (Statement.declare name type).write = "\tvar " ++ name ++ " " ++ type.write ++ "\n" := rfl

@[simp]
theorem write_define :
    (Statement.define name value).write = "\t" ++ name ++ " := " ++ value.write ++ "\n" := rfl

@[simp]
theorem write_run (base : String) (arguments : List Atom) :
    (Statement.run base name arguments).write = "\t" ++ writeCall base name arguments ++ "\n" :=
  rfl

@[simp]
theorem write_guard :
    (Statement.guard name value returned).write =
      "\tif " ++ name ++ " := " ++ value.write ++ "; " ++ name ++ " != nil \x7b\n\t\t" ++
        writeReturn returned ++ "\t\x7d\n" := rfl

@[simp]
theorem write_absent :
    (Statement.absent name returned).write =
      "\tif " ++ name ++ " == nil \x7b\n\t\t" ++ writeReturn returned ++ "\t\x7d\n" := rfl

@[simp]
theorem write_fill (slots key values : String) (entry : Term) :
    (Statement.fill slots key name values entry).write =
      "\tfor " ++ key ++ ", " ++ name ++ " := range " ++ values ++ " \x7b\n\t\t" ++
        slots ++ "[" ++ key ++ "] = " ++ entry.write ++ "\n\t\x7d\n" := rfl

end Writing

namespace Code

@[simp]
def writeResults : List TypeExpr → String
  | [] => ""
  | [type] => type.write ++ " "
  | types => "(" ++ ", ".intercalate (types.map TypeExpr.write) ++ ") "

/-- What is returned stands on the last line, if anything is. -/
@[simp]
def writeLast : List Term → String
  | [] => ""
  | returned => "\t" ++ writeReturn returned

def write (code : Code) : String :=
  "(" ++ ", ".intercalate (code.parameters.map fun entry => entry.1 ++ " " ++ entry.2.write) ++
    ") " ++ writeResults code.results ++ "\x7b\n" ++
    String.join (code.statements.map Statement.write) ++ writeLast code.returned ++ "\x7d"

end Code

/-! What names mean. -/

inductive GoType where
  | basic (name : String)
  | imported (package name : String)
  | own (name : String)
  | map (key value : GoType)
  | pointer (target : GoType)
  | slice (element : GoType)
deriving DecidableEq, Repr

namespace GoType

def text : GoType := .basic "string"

def error : GoType := .basic "error"

def dateTime : GoType := .imported "types" "DateTime"

def objectMap : GoType := .map text (.basic "any")

def app : GoType := .imported "core" "App"

def proxy : GoType := .imported "core" "BaseRecordProxy"

def record : GoType := .pointer (.imported "core" "Record")

end GoType

structure Signature where
  parameters : List GoType
  result : Option GoType := none
deriving DecidableEq, Repr

/-- What the imported packages declare: fields and methods of types, and types that have a `nil`. -/
structure Library where
  field : GoType → String → Option GoType
  method : GoType → String → Option Signature
  nilTypes : List GoType

/-- A type of texts, one that embeds the proxy of a record, or any other. -/
inductive TypeKind where
  | text
  | record
  | other
deriving DecidableEq, Repr

/-- A function of one parameter and one result. Those of other shapes are called in no method. -/
structure Function where
  name : String
  parameter : TypeExpr
  result : TypeExpr
deriving DecidableEq, Repr

structure Declarations where
  types : List (String × TypeKind) := []
  functions : List Function := []
  others : List String := []
deriving DecidableEq, Repr

/-- A file in its package. Methods go by the types of their receivers. -/
structure Package where
  library : Library
  imports : List String
  declarations : Declarations
  methods : List (String × String)

def Declarations.names (declarations : Declarations) : List String :=
  declarations.types.map Prod.fst ++ declarations.functions.map (·.name) ++ declarations.others

/-- Local variables with their types, the innermost first. -/
abbrev Scope := List (String × GoType)

/-- No two variables of one block have one name. The blank identifier stands for none. -/
def Scope.bind? (scope : Scope) (name : String) (type : GoType) : Option Scope :=
  if name = "_" then some scope
  else if (scope.lookup name).isSome then none
  else some ((name, type) :: scope)

inductive Meaning where
  | variable (type : GoType)
  | declared
  | imported
  | predeclared
deriving DecidableEq, Repr

def predeclaredTypes : List String := [
    "any", "bool", "byte", "complex64", "complex128", "error", "float32", "float64", "int", "int8",
    "int16", "int32", "int64", "rune", "string", "uint", "uint8", "uint16", "uint32", "uint64",
    "uintptr"
  ]

namespace Package

variable (package : Package) (scope : Scope)

def declares (name : String) : Bool := package.declarations.names.contains name

def meaning (name : String) : Meaning :=
  match scope.lookup name with
  | some type => .variable type
  | none =>
      if package.declares name then .declared
      else if package.imports.contains name then .imported
      else .predeclared

def typeNamed? (name : String) : Option GoType :=
  match package.meaning scope name with
  | .declared => if (package.declarations.types.lookup name).isSome then some (.own name) else none
  | .predeclared => if predeclaredTypes.contains name then some (.basic name) else none
  | _ => none

def qualifiedType? (name : String) : Option GoType :=
  match Text.split '.' name with
  | [single] => package.typeNamed? scope single
  | [qualifier, member] =>
      if package.meaning scope qualifier = .imported then some (.imported qualifier member)
      else none
  | _ => none

def type? : TypeExpr → Option GoType
  | .named name => package.qualifiedType? scope name
  | .objectMap => do
      return .map (← package.typeNamed? scope "string") (← package.typeNamed? scope "any")
  | .pointer target => (type? target).map .pointer
  | .slice element => (type? element).map .slice

def isText : GoType → Bool
  | .basic name => name = "string"
  | .own name => package.declarations.types.contains (name, .text)
  | _ => false

def hasNil : GoType → Bool
  | .basic name => name = "any" || name = "error"
  | .imported qualifier name => package.library.nilTypes.contains (.imported qualifier name)
  | .own _ => false
  | .map _ _ | .pointer _ | .slice _ => true

def function? (name : String) (given : GoType) : Option GoType := do
  let function ← package.declarations.functions.find? fun function =>
    function.name = name && package.type? [] function.parameter = some given
  package.type? [] function.result

/-- What an application gives: texts are converted to other types of texts. -/
def applied? (name : String) (given : GoType) : Option GoType :=
  match (package.typeNamed? scope name).filter fun target =>
      package.isText given && package.isText target with
  | some target => some target
  | none => if package.meaning scope name = .declared then package.function? name given else none

end Package

/-! Static types. -/

structure Surroundings where
  package : Package
  receiver : String

namespace Surroundings

variable (around : Surroundings)

def wrapper : GoType := .pointer (.own around.receiver)

/-- The members of an embedded proxy are members of the record type, unless a method of its own
hides them. -/
def member? {α : Type} (members : GoType → String → Option α) (type : GoType) (name : String) :
    Option α :=
  if type = around.wrapper then
    if around.package.declarations.types.contains (around.receiver, .record) &&
        !around.package.methods.contains (around.receiver, name) then
      members .proxy name
    else none
  else members type name

end Surroundings

/-- The type of an expression; `nil` has none of its own. -/
inductive Static where
  | nil
  | of (type : GoType)
deriving DecidableEq, Repr

namespace Static

variable (package : Package)

/-- Whether a value can be handed over as an argument. -/
@[simp]
def fits (wanted : GoType) : Static → Bool
  | .nil => package.hasNil wanted
  | .of type => type = wanted || wanted = .basic "any"

/-- Whether a value has just the type, or is the `nil` of it. -/
@[simp]
def isExactly (wanted : GoType) : Static → Bool
  | .nil => package.hasNil wanted
  | .of type => type = wanted

/-- Whether values go with types, one by one. -/
@[simp]
def allOf (agrees : GoType → Static → Bool) : List GoType → List Static → Bool
  | [], [] => true
  | wanted :: others, given :: rest => agrees wanted given && allOf agrees others rest
  | _, _ => false

end Static

section Types

variable (around : Surroundings) (scope : Scope)

def Atom.type? : Atom → Option Static
  | .nil => if around.package.meaning scope "nil" = .predeclared then some .nil else none
  | .literal _ => some (.of .text)
  | .texts _ =>
      ((around.package.typeNamed? scope "string").filter around.package.isText).map fun element =>
        .of (.slice element)
  | .variable name => (scope.lookup name).map .of
  | .address name => (scope.lookup name).map fun type => .of (.pointer type)
  | .field base name => do
      return .of (← around.member? around.package.library.field (← scope.lookup base) name)
  | .applied name argument => do
      return .of (← around.package.applied? scope name (← scope.lookup argument))

def callee? (base name : String) (arguments : List Atom) : Option Signature := do
  let signature ← around.member? around.package.library.method (← scope.lookup base) name
  let given ← arguments.mapM (Atom.type? around scope)
  if Static.allOf (Static.fits around.package) signature.parameters given then some signature
  else none

def Term.type? : Term → Option Static
  | .plain value => value.type? around scope
  | .call base name arguments => do
      return .of (← (← callee? around scope base name arguments).result)
  | .applied name value =>
      match value.type? with
      | some (.of given) => (around.package.applied? scope name given).map .of
      | _ => none
  | .slots element values =>
      if around.package.meaning scope "make" = .predeclared ∧
          around.package.meaning scope "len" = .predeclared then
        match scope.lookup values with
        | some (.slice _) =>
            (around.package.type? scope element).map fun type => .of (.slice type)
        | _ => none
      else none
  | .entry name key =>
      match scope.lookup name with
      | some (.map index value) =>
          if key.type? around scope = some (.of index) then some (.of value) else none
      | _ => none
  | .fresh typeName =>
      match around.package.typeNamed? scope typeName with
      | some (.own name) =>
          if around.package.declarations.types.contains (name, .record) then
            some (.of (.pointer (.own name)))
          else none
      | _ => none

def areReturned (results : List GoType) (returned : List Term) : Bool :=
  match returned.mapM (Term.type? around scope) with
  | some given => Static.allOf (Static.isExactly around.package) results given
  | none => false

/-- Whether a body can leave with the values where a variable, or its lack, is told by `nil`. -/
def leaves (type : GoType) (results : List GoType) (returned : List Term) : Bool :=
  around.package.meaning scope "nil" = .predeclared && around.package.hasNil type &&
    areReturned around scope results returned

/-- The scope after a statement whose parts have types, and which returns nothing but results. -/
def Statement.after? (results : List GoType) : Statement → Option Scope
  | .declare name type => do scope.bind? name (← around.package.type? scope type)
  | .define name value =>
      match value.type? around scope with
      | some (.of type) => scope.bind? name type
      | _ => none
  | .run base name arguments => (callee? around scope base name arguments).map fun _ => scope
  | .guard name value returned =>
      match value.type? around scope with
      | some (.of type) =>
          if leaves around ((name, type) :: scope) type results returned then some scope else none
      | _ => none
  | .absent name returned =>
      match scope.lookup name with
      | some type => if leaves around scope type results returned then some scope else none
      | none => none
  | .fill slots key value values entry =>
      match scope.lookup values with
      | some (.slice given) =>
          let inner := (value, given) :: (key, .basic "int") :: scope
          match inner.lookup slots with
          | some (.slice element) =>
              if entry.type? around inner = some (.of element) then some scope else none
          | _ => none
      | _ => none

def areTyped (results : List GoType) (statements : List Statement) (returned : List Term) :
    Bool :=
  match statements.foldlM (fun scope => Statement.after? around scope results) scope with
  | some last => areReturned around last results returned
  | none => false

end Types

namespace Code

variable (around : Surroundings) (outer : Scope) (code : Code)

/-- Parameters join the scope of the body; their types are found in that of the package. -/
def inside? : Option Scope :=
  code.parameters.foldlM (fun scope entry => do
    scope.bind? entry.1 (← around.package.type? [] entry.2)) outer

def isTyped : Bool :=
  match code.inside? around outer, code.results.mapM (around.package.type? []) with
  | some scope, some results => areTyped around scope results code.statements code.returned
  | _, _ => false

end Code

end CollectionTypes.Go
