import CollectionTypes.Property.Interpretation
import CollectionTypes.Text.Lowercase

/-!
The three kinds of output, and the two choices of style that apply to plain types.
-/

namespace CollectionTypes

inductive Target where
  | typeScript
  | goStruct
  | goRecord
deriving DecidableEq, Repr, Inhabited

structure Style where
  /-- Optional fields become pointers, where their type has no empty value of its own. -/
  explicitOptional : Bool := false
  /-- Relations are the identifiers of records, not the records. -/
  relationIds : Bool := false
deriving DecidableEq, Repr, Inhabited

namespace Target

def name : Target → String
  | .typeScript => "typescript"
  | .goStruct => "go"
  | .goRecord => "go-record"

def ofName? (name : String) : Option Target :=
  match Text.lowercase name with
  | "typescript" | "ts" => some .typeScript
  | "go" | "go-struct" | "golang" => some .goStruct
  | "go-record" | "record" => some .goRecord
  | _ => none

def unknownMessage (name : String) : String :=
  "unknown target '" ++ name ++ "', expected one of: typescript, go, go-record"

def fileExtension : Target → String
  | .typeScript => "ts"
  | .goStruct | .goRecord => "go"

def defaultStyle : Target → Style
  | .typeScript => {}
  | .goStruct | .goRecord => { relationIds := true }

/-- Records reach hidden fields too, and have their identifier from the type they extend. -/
def interpretOptions : Target → InterpretOptions
  | .typeScript | .goStruct => {}
  | .goRecord => { includeHidden := true, excludedFields := ["id"] }

end Target

end CollectionTypes
