import CollectionTypes.Text.Escaped

/-!
What is needed to sign in to a server. An empty part is a missing one.
-/

namespace CollectionTypes

structure Credentials where
  host : String := ""
  email : String := ""
  password : String := ""
deriving DecidableEq, Repr, Inhabited

namespace Credentials

def isComplete (credentials : Credentials) : Bool :=
  !credentials.host.isEmpty && !credentials.email.isEmpty && !credentials.password.isEmpty

def firstNonEmpty (first second : String) : String := if first.isEmpty then second else first

/-- Takes from `other` what is missing. -/
def orElse (credentials other : Credentials) : Credentials where
  host := firstNonEmpty credentials.host other.host
  email := firstNonEmpty credentials.email other.email
  password := firstNonEmpty credentials.password other.password

/-- For messages; never shows the password. -/
def describe (credentials : Credentials) : String :=
  "Credentials \x7b host: " ++ Text.Escaped.display credentials.host ++
    ", email: " ++ Text.Escaped.display credentials.email ++
    ", password: " ++ Text.Escaped.display "<redacted>" ++ " \x7d"

end Credentials

end CollectionTypes
