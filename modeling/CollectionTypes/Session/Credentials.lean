import CollectionTypes.Prompt.Credentials
import CollectionTypes.Session.Basic
import CollectionTypes.Settings

/-!
Credentials of a session: where they come from, and where they are kept. Only one of the two files
is kept, the plain one or the sealed one.
-/

namespace CollectionTypes.Run

def loadFailure (path : String) : ClientError → Failure :=
  clientFailure ("Failed to load credentials: " ++ Path.display path)

def loadCredentials (path : String) (read : FileContent → Except ClientError Credentials) :
    Run Credentials := do
  let content ← orFail (loadFailure path ∘ .io) ((← get).files.read path)
  orFail (loadFailure path) (read content)

/-- The passphrase that is given, or else asked for. -/
def passphraseOr (arguments : SourceArguments) (askPassphrase : Run String) : Run String :=
  match arguments.passphrase with
  | some passphrase => pure passphrase
  | none => askPassphrase

/-- The credentials that are kept: the sealed file counts if it is there. -/
def keptCredentials (arguments : SourceArguments) (askPassphrase : Run String) :
    Run Credentials := do
  let session ← get
  if session.files.contains arguments.encryptedCredentialsFile then
    let passphrase ← passphraseOr arguments askPassphrase
    loadCredentials arguments.encryptedCredentialsFile
      (Credentials.openWith session.environment passphrase)
  else if session.files.contains arguments.credentialsFile then
    loadCredentials arguments.credentialsFile (Credentials.load session.environment)
  else return {}

/-- Each part from the first source that has it: the command line, the file, the configuration. No
file is looked at if the command line has all of them. -/
def partialCredentials (arguments : SourceArguments) (config : Config)
    (askPassphrase : Run String) : Run Credentials := do
  let given := arguments.credentials
  if given.isComplete then return given
  let kept ← keptCredentials arguments askPassphrase
  return (given.orElse kept).orElse config.credentials

def saveFailure (path : String) : ClientError → Failure :=
  clientFailure ("Failed to save credentials: " ++ Path.display path)

def saveContent (path : String) (content : String) : Run Unit :=
  putFile (saveFailure path ∘ .io) path (.text content)

def savePlain (path : String) (credentials : Credentials) : Run Unit := do
  saveContent path credentials.save
  note .info ("Saved credentials to " ++ path)

def saveSealed (path : String) (credentials : Credentials) (passphrase : String) : Run Unit := do
  let content ← orFail (saveFailure path)
    (credentials.sealWith passphrase (← get).sealing)
  saveContent path content
  note .info ("Saved encrypted credentials to " ++ path)

/-- Removes the file of the other form, if there is one. -/
def removeStale (path : String) : Run Unit := do
  if (← get).files.contains path then
    changeFiles (fileFailure ("Failed to remove old credentials: " ++ Path.display path))
      (·.remove path)
    note .info ("Removed old credentials file " ++ path)

def saveCredentials (arguments : SourceArguments) (credentials : Credentials)
    (askPassphrase : Run String) : Run Unit := do
  if arguments.encrypt then
    let passphrase ← passphraseOr arguments askPassphrase
    saveSealed arguments.encryptedCredentialsFile credentials passphrase
    removeStale arguments.credentialsFile
  else
    savePlain arguments.credentialsFile credentials
    removeStale arguments.encryptedCredentialsFile

end CollectionTypes.Run
