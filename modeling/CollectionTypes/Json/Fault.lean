import CollectionTypes.Json.Value
import CollectionTypes.Number.Shortest
import CollectionTypes.Text.Escaped

/-!
What can be wrong with a document: its text is malformed or stops early, or a well-formed part has
another shape than the one that is wanted there. Of malformed texts only the two classes are told
apart, so their messages are placeholders.
-/

namespace CollectionTypes.Json

/-- What stands where something else is wanted. -/
inductive Found where
  | null
  | flag (value : Bool)
  | number (value : Number)
  | text (value : String)
  | sequence
  | mapping
deriving DecidableEq, Repr

inductive Fault where
  | malformed
  | unfinished
  | wrongType (found : Found) (wanted : String)
  | wrongValue (found : Found) (wanted : String)
  | wrongLength (length : Nat) (wanted : String)
  | missingField (name : String)
  | duplicateField (name : String)
deriving DecidableEq, Repr

def integerText (value : Int) : String :=
  if value < 0 then "-" ++ Text.Decimal.write value.natAbs else Text.Decimal.write value.natAbs

def Number.write : Number → String
  | .integer value => integerText value
  | .double value => String.ofList value.write

namespace Found

def describe : Found → String
  | .null => "null"
  | .flag value => "boolean `" ++ (if value then "true" else "false") ++ "`"
  | .number (.integer value) => "integer `" ++ integerText value ++ "`"
  | .number (.double value) => "floating point `" ++ String.ofList value.write ++ "`"
  | .text value => "string " ++ Text.Escaped.display value
  | .sequence => "sequence"
  | .mapping => "map"

def ofValue : Value → Found
  | .null => .null
  | .flag value => .flag value
  | .number value => .number value
  | .text value => .text value
  | .array _ => .sequence
  | .object _ => .mapping

end Found

def Fault.message : Fault → String
  | .malformed => "<syntax>"
  | .unfinished => "<eof>"
  | .wrongType found wanted => "invalid type: " ++ found.describe ++ ", expected " ++ wanted
  | .wrongValue found wanted => "invalid value: " ++ found.describe ++ ", expected " ++ wanted
  | .wrongLength length wanted =>
      "invalid length " ++ Text.Decimal.write length ++ ", expected " ++ wanted
  | .missingField name => "missing field `" ++ name ++ "`"
  | .duplicateField name => "duplicate field `" ++ name ++ "`"

end CollectionTypes.Json
