import CollectionTypes.Credentials.Basic
import CollectionTypes.Prompt.Terminal

/-!
Questions about credentials: what is missing of them, and the passphrase of their file.
-/

namespace CollectionTypes.Dialogue

def defaultHost : String := "http://127.0.0.1:8090"

def ask (question : String) (default : Option String) : Dialogue String :=
  Terminal.ask question default

def askUntilGiven (question : String) : Dialogue String := Terminal.askUntilGiven question

def askHidden (subject : String) : Dialogue String := Terminal.askHidden subject

/-- Asks for whatever is missing. The address may be left at its default; there is no way around the
email. -/
def completeCredentials (credentials : Credentials) : Dialogue Credentials := do
  let host ←
    if credentials.host.isEmpty then ask "PocketBase URL" (some defaultHost)
    else pure credentials.host
  let email ←
    if credentials.email.isEmpty then askUntilGiven "Superuser email" else pure credentials.email
  let password ←
    if credentials.password.isEmpty then askHidden "password" else pure credentials.password
  return ⟨host, email, password⟩

/-- The passphrase of a credentials file, asked for twice where a slip would lock the file. -/
def askPassphrase (confirm : Bool) : Dialogue String := do
  let passphrase ← askHidden "passphrase"
  if passphrase.isEmpty then throw { cause := "The credentials passphrase must not be empty" }
  if confirm then
    let repeated ← askHidden "passphrase"
    if repeated ≠ passphrase then throw { cause := "Passphrases do not match" }
  return passphrase

end CollectionTypes.Dialogue
