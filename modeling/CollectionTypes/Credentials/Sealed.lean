import CollectionTypes.Credentials.Plain
import CollectionTypes.Json.Decoder
import CollectionTypes.Json.Writer
import CollectionTypes.Seal.Authenticated
import CollectionTypes.Seal.Derivation
import CollectionTypes.Text.Base64

/-!
Credentials in an environment file that only a passphrase opens: a salt, the sealed text behind its
nonce, and the cost of deriving the key. Salt and nonce come from the caller.
-/

namespace CollectionTypes.Credentials

open Seal (Bytes)

namespace Sealed

def defaultCost : Nat := 15

def invalidSalt : ClientError := .encryption "invalid SALT:"

def invalidData : ClientError := .encryption "invalid DATA:"

def invalidCost (value : String) : ClientError :=
  .encryption ("invalid SCRYPT_LOG_N " ++ Text.Escaped.display value)

def invalidParameters : ClientError := .encryption "invalid scrypt parameters:"

def invalidPayload : ClientError := .encryption "invalid credentials payload:"

def missingSalt : ClientError := .encryption "missing SALT"

def missingData : ClientError := .encryption "missing DATA"

def shortData : ClientError := .encryption "DATA is too short"

def wrongPassphrase : ClientError :=
  .encryption "wrong passphrase or corrupted credentials file"

/-- What a file has said so far. -/
structure Parts where
  salt : Option Bytes := none
  data : Option Bytes := none
  cost : Nat := defaultCost
deriving DecidableEq, Repr

def decodeBytes (value : String) : Option Bytes :=
  Text.Base64.decode (Text.trimLetters value.toList)

/-- Costs have eight bits. -/
def costBound : Nat := 256

def readCost (value : String) : Except ClientError Nat :=
  match Text.Decimal.parseSigned value.toList with
  | some cost => if cost < costBound then .ok cost else .error (invalidCost value)
  | none => .error (invalidCost value)

def assign (parts : Parts) (entry : String × String) : Except ClientError Parts :=
  match entry.1 with
  | "SALT" =>
      match decodeBytes entry.2 with
      | some salt => .ok { parts with salt := some salt }
      | none => .error invalidSalt
  | "DATA" =>
      match decodeBytes entry.2 with
      | some data => .ok { parts with data := some data }
      | none => .error invalidData
  | "SCRYPT_LOG_N" => do return { parts with cost := ← readCost entry.2 }
  | _ => .ok parts

/-- The entries before a fault are looked at first. -/
def readParts (environment : EnvFile.Environment) (content : FileContent) :
    Except ClientError Parts := do
  let (entries, fault) := EnvFile.entries environment content.lines
  let parts ← entries.foldlM assign {}
  match fault with
  | some found => .error (.ofEnvFault found)
  | none => .ok parts

/-- Salt, nonce and sealed text; the text is not empty. -/
def splitParts (parts : Parts) : Except ClientError (Bytes × Bytes × Bytes) :=
  match parts.salt, parts.data with
  | none, _ => .error missingSalt
  | some _, none => .error missingData
  | some salt, some data =>
      if data.length ≤ Seal.Authenticated.nonceSize then .error shortData
      else
        .ok (salt, data.take Seal.Authenticated.nonceSize, data.drop Seal.Authenticated.nonceSize)

def keyFor (passphrase : String) (salt : Bytes) (cost : Nat) : Except ClientError Bytes :=
  if cost ≥ Seal.Derivation.costLimit then .error invalidParameters
  else .ok (Seal.Derivation.deriveKey (Seal.bytesOfText passphrase) salt cost)

def payload (credentials : Credentials) : String :=
  Json.Writer.write (.object [("host", .text credentials.host), ("email", .text credentials.email),
    ("password", .text credentials.password)])

def payloadKeys : List String := ["host", "email", "password"]

def assignPayload (key : String) (source : Json.Tree) (credentials : Credentials) :
    Except Json.Fault Credentials := do
  let value ← Json.Decoder.textual.text source
  match key with
  | "host" => return { credentials with host := value }
  | "email" => return { credentials with email := value }
  | _ => return { credentials with password := value }

/-- All three parts have to be there. -/
def readPayload (text : String) : Except Json.Fault Credentials :=
  Json.decodeText
    (Json.Decoder.textual.record ⟨"Credentials", payloadKeys, payloadKeys, {}, assignPayload⟩) text

def credentialsOfBytes (plain : Bytes) : Except ClientError Credentials :=
  match String.fromUTF8? ⟨plain.toArray⟩ with
  | none => .error invalidPayload
  | some text => (readPayload text).mapError fun _ => invalidPayload

end Sealed

/-- The salt, nonce and cost with which credentials are sealed. -/
structure SealOptions where
  salt : Bytes
  nonce : Bytes
  cost : Nat := Sealed.defaultCost

def sealWith (credentials : Credentials) (passphrase : String) (options : SealOptions) :
    Except ClientError String := do
  let key ← Sealed.keyFor passphrase options.salt options.cost
  let plain := Seal.bytesOfText (Sealed.payload credentials)
  let data := options.nonce ++ Seal.Authenticated.encrypt key options.nonce plain
  return "SALT=" ++ String.ofList (Text.Base64.encode options.salt) ++ "\n" ++
    "DATA=" ++ String.ofList (Text.Base64.encode data) ++ "\n" ++
    "SCRYPT_LOG_N=" ++ Text.Decimal.write options.cost ++ "\n"

def openWith (environment : EnvFile.Environment) (passphrase : String) (content : FileContent) :
    Except ClientError Credentials := do
  let parts ← Sealed.readParts environment content
  let (salt, nonce, hidden) ← Sealed.splitParts parts
  let key ← Sealed.keyFor passphrase salt parts.cost
  match Seal.Authenticated.decrypt key nonce hidden with
  | none => .error Sealed.wrongPassphrase
  | some plain => Sealed.credentialsOfBytes plain

end CollectionTypes.Credentials
