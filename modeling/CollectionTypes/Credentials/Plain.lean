import CollectionTypes.Client.Error
import CollectionTypes.Credentials.Basic
import CollectionTypes.EnvFile.Basic

/-!
Credentials in a plain environment file with three keys. Other keys are ignored, and of repeated
keys the last one counts.
-/

namespace CollectionTypes

def ClientError.ofEnvFault : EnvFile.Fault → ClientError
  | .notText => .io .other
  | .badLine => .credentials "<dotenv>"

namespace Credentials

def assign (credentials : Credentials) (entry : String × String) : Credentials :=
  match entry.1 with
  | "HOST" => { credentials with host := entry.2 }
  | "EMAIL" => { credentials with email := entry.2 }
  | "PASSWORD" => { credentials with password := entry.2 }
  | _ => credentials

def load (environment : EnvFile.Environment) (content : FileContent) :
    Except ClientError Credentials :=
  let (entries, fault) := EnvFile.entries environment content.lines
  match fault with
  | some found => .error (.ofEnvFault found)
  | none => .ok (entries.foldl assign {})

def save (credentials : Credentials) : String :=
  "HOST=" ++ EnvFile.quote credentials.host ++ "\n" ++
  "EMAIL=" ++ EnvFile.quote credentials.email ++ "\n" ++
  "PASSWORD=" ++ EnvFile.quote credentials.password ++ "\n"

end Credentials

end CollectionTypes
