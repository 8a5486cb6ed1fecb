import CollectionTypes.Collection.Document

/-!
Why a schema cannot be had, or credentials be kept. Only failures that may pass by themselves are
worth another attempt.
-/

namespace CollectionTypes

inductive ClientError where
  | io (fault : FileFault)
  | document (error : DocumentError)
  | transport (reason : String)
  | status (code : Nat) (url reason : String)
  | missingToken
  | credentials (reason : String)
  | encryption (reason : String)
  | retriesExhausted (attempts : Nat) (last : String)
deriving DecidableEq, Repr

namespace ClientError

def message : ClientError → String
  | .io fault => "IO error: " ++ fault.message
  | .document error => "schema parse error: " ++ error.message
  | .transport reason => "transport error: " ++ reason
  | .status code url reason =>
      url ++ " returned HTTP " ++ Text.Decimal.write code ++ ": " ++ reason
  | .missingToken => "authentication response carried no token"
  | .credentials reason => "credentials error: " ++ reason
  | .encryption reason => "encryption error: " ++ reason
  | .retriesExhausted attempts last =>
      "request failed after " ++ Text.Decimal.write attempts ++ " attempts: " ++ last

/-- From this code on the server is at fault, not the request. -/
def serverFaultCode : Nat := 500

def isRetryable : ClientError → Bool
  | .transport _ => true
  | .status code _ _ => code ≥ serverFaultCode
  | _ => false

/-- A request that got no answer. -/
def noAnswer : ClientError := .transport "<transport>"

/-- An answer whose body is not of the form that was wanted. -/
def unusableBody : ClientError := .io .other

end ClientError

end CollectionTypes
