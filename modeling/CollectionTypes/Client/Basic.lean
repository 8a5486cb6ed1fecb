import CollectionTypes.Client.Wire
import CollectionTypes.Collection.Record
import CollectionTypes.Credentials.Basic
import CollectionTypes.Text.Basic

/-!
A client of a collection server: it signs in with credentials, keeps the token it is given, and
lists the collections page by page.
-/

namespace CollectionTypes

structure Client where
  host : String
  retry : RetryPolicy := {}
  perPage : Nat := 500
  token : Option String := none
deriving DecidableEq, Repr

namespace Client

def hasScheme (host : List Char) : Bool :=
  "http://".toList.isPrefixOf host || "https://".toList.isPrefixOf host

/-- The address of a host: with a scheme, and without blanks and slashes at its end. -/
def normalizeHost (host : String) : String :=
  let letters := Text.dropEnd (· = '/') (Text.trimLetters host.toList)
  if hasScheme letters then String.ofList letters else "http://" ++ String.ofList letters

def forHost (host : String) : Client := { host := normalizeHost host }

/-! Choices made before the first request. -/

def withRetries (client : Client) (enabled : Bool) : Client :=
  { client with retry := { client.retry with
      maxAttempts := if enabled then ({} : RetryPolicy).maxAttempts else 1 } }

def withRetryDelay (client : Client) (delay : Duration) : Client :=
  { client with retry := { client.retry with initialDelay := delay } }

def withMaxAttempts (client : Client) (attempts : Nat) : Client :=
  { client with retry := { client.retry with maxAttempts := max attempts 1 } }

def withPolicy (client : Client) (policy : RetryPolicy) : Client :=
  { client with retry := { policy with maxAttempts := max policy.maxAttempts 1 } }

def withPerPage (client : Client) (count : Nat) : Client := { client with perPage := max count 1 }

def isAuthenticated (client : Client) : Bool := client.token.isSome

/-! Signing in. -/

def signInPath : String := "/api/collections/_superusers/auth-with-password"

def collectionsPath : String := "/api/collections"

def signInRequest (client : Client) (credentials : Credentials) : Request where
  method := .post
  url := client.host ++ signInPath
  body := some (.ofEntries
    [("identity", .text credentials.email), ("password", .text credentials.password)])

/-- The token in the body of an answer; a body without one stands for the empty token. -/
def tokenOfBody (body : String) : Except Json.Fault String :=
  let assign (_ : String) (source : Json.Tree) (_ : String) : Except Json.Fault String :=
    Json.Decoder.textual.text source
  Json.decodeText (Json.Decoder.textual.record ⟨"authentication", ["token"], [], "", assign⟩) body

/-- Keeps a token only if it is given one; otherwise the client is as before. -/
def authenticate (credentials : Credentials) :
    StateT Client (StateM Wire) (Except ClientError Unit) := do
  let client ← get
  let request := client.signInRequest credentials
  match ← Wire.withRetry client.retry (Wire.ask request tokenOfBody) with
  | .error error => return .error error
  | .ok token =>
      if token.isEmpty then return .error .missingToken
      else
        Wire.note .info ("Authenticated as " ++ credentials.email)
        set { client with token := some token }
        return .ok ()

/-! Listing collections. -/

/-- Adds parameters to an address. -/
def withQuery (url query : String) : String :=
  if url.toList.contains '?' then url ++ "&" ++ query else url ++ "?" ++ query

def pageQuery (page perPage : Nat) : String :=
  "page=" ++ Text.Decimal.write page ++ "&perPage=" ++ Text.Decimal.write perPage

def pageRequest (client : Client) (token : String) (page : Nat) : Request where
  method := .get
  url := withQuery (client.host ++ collectionsPath) (pageQuery page client.perPage)
  authorization := some token

/-- Page counters have 32 bits. -/
def greatestPage : Nat := Nat.pow 2 32 - 1

/-- The last page that a listing announces. -/
def lastPage (listing : Listing) : Nat := min listing.totalPages greatestPage

/-- The collections from a page on: up to an empty page, or the last one announced. -/
def fetchFrom (client : Client) (token : String) (page : Nat) :
    StateM Wire (Except ClientError (List Collection)) := do
  let request := client.pageRequest token page
  match ← Wire.withRetry client.retry (Wire.ask request Listing.ofText) with
  | .error error => return .error error
  | .ok listing =>
      if _ : listing.items.isEmpty ∨ page ≥ lastPage listing then return .ok listing.items
      else
        match ← fetchFrom client token (page + 1) with
        | .error error => return .error error
        | .ok rest => return .ok (listing.items ++ rest)
termination_by greatestPage - page
decreasing_by
  rename_i ended
  simp only [not_or, lastPage] at ended
  omega

def fetchedMessage (client : Client) (collections : List Collection) : String :=
  "Fetched " ++ Text.Decimal.write collections.length ++ " collections from " ++ client.host

/-- Lists every collection; a client that is not signed in sends nothing. -/
def fetchCollections (client : Client) : StateM Wire (Except ClientError (List Collection)) := do
  match client.token with
  | none => return .error .missingToken
  | some token =>
      match ← client.fetchFrom token 1 with
      | .error error => return .error error
      | .ok collections =>
          Wire.note .info (client.fetchedMessage collections)
          return .ok collections

end Client

end CollectionTypes
