import CollectionTypes.Prompt.Selection
import CollectionTypes.Session.Credentials

/-!
Collections of a session: from an exported document or from a server, and the choice among them.
-/

namespace CollectionTypes.Run

def schemaFailure (path : String) (error : DocumentError) : Failure :=
  clientFailure ("Failed to load schema: " ++ Path.display path) (.document error)

def loadedMessage (path : String) (collections : List Collection) : String :=
  "Loaded " ++ Text.Decimal.write collections.length ++ " collections from " ++ path

def loadDocument (path : String) : Run (List Collection) := do
  let content ← orFail (schemaFailure path ∘ .file) ((← get).files.readText path)
  let collections ← orFail (schemaFailure path) (Document.collections content)
  note .info (loadedMessage path collections)
  return collections

def signIn (credentials : Credentials) : Run Client := do
  let client := Client.forHost credentials.host
  let (result, client) ← onWire ((Client.authenticate credentials).run client)
  orFail (clientFailure ("Failed to authenticate against " ++ client.host)) result
  return client

/-- Credentials are saved once the server has taken them. -/
def fetch (arguments : SourceArguments) (config : Config) : Run (List Collection) := do
  let known ← partialCredentials arguments config (ask (Dialogue.askPassphrase false))
  let credentials ← ask (Dialogue.completeCredentials known)
  let client ← signIn credentials
  if arguments.saveCredentials then
    saveCredentials arguments credentials (ask (Dialogue.askPassphrase true))
  orFail (clientFailure "Failed to fetch collections") (← onWire client.fetchCollections)

def loadCollections (arguments : SourceArguments) (config : Config) : Run (List Collection) :=
  match arguments.schema with
  | some path => loadDocument path
  | none => fetch arguments config

def selectionFailure (error : SelectionError) : Failure :=
  ⟨["Failed to select collections"], error.message⟩

def selectByRule (policy : SelectionPolicy) (collections : List Collection) :
    Run (List Collection) := do
  warn (policy.warnings collections)
  return policy.select collections

def select (arguments : SourceArguments) (config : Config) (collections : List Collection) :
    Run (List Collection) := do
  let selected ←
    if arguments.interactive then do
      orFail selectionFailure (← onTerminal (Selection.choose collections))
    else selectByRule (.resolve arguments config) collections
  if selected.isEmpty then note .warn "No collections selected"
  return selected

end CollectionTypes.Run
