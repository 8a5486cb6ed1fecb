import CollectionTypes.Client.Error
import CollectionTypes.Client.Retry
import CollectionTypes.Json.Writer
import CollectionTypes.Log

/-!
Requests and replies. A server is any function from the requests it has seen to its reply to the
last of them; the wire remembers what was sent, what was logged and how long the client waited.
-/

namespace CollectionTypes

inductive Method where
  | get
  | post
deriving DecidableEq, Repr

def Method.name : Method → String
  | .get => "GET"
  | .post => "POST"

structure Request where
  method : Method
  url : String
  authorization : Option String := none
  body : Option Json.Value := none

namespace Request

/-- Visible ASCII letters, blanks and tabs can stand in a header. -/
def isHeaderLetter (letter : Char) : Bool :=
  letter = '\t' || (0x20 ≤ letter.toNat && letter.toNat ≤ 0x7e)

def isSendable (request : Request) : Bool :=
  match request.authorization with
  | none => true
  | some value => value.toList.all isHeaderLetter

/-- The address of a host without its scheme. -/
def afterScheme : List Char → List Char
  | ':' :: '/' :: '/' :: rest => rest
  | _ :: rest => afterScheme rest
  | [] => []

/-- The part of the address that the server sees: all from the first slash after the host. -/
def target (request : Request) : String :=
  String.ofList ((afterScheme request.url.toList).dropWhile (· ≠ '/'))

end Request

inductive Reply where
  | answer (status : Nat) (body : String)
  | dropped
deriving DecidableEq, Repr

/-- The requests come with the last one first. -/
abbrev Server := List Request → Reply

structure Wire where
  server : Server
  /-- The last request first. -/
  sent : List Request := []
  waits : List Duration := []
  log : List Log.Entry := []

namespace Wire

def note (level : Log.Level) (text : String) : StateM Wire Unit :=
  modify fun wire => { wire with log := wire.log ++ [⟨level, text⟩] }

def wait (duration : Duration) : StateM Wire Unit :=
  modify fun wire => { wire with waits := wire.waits ++ [duration] }

/-- A request that cannot be written down is never sent. -/
def send (request : Request) : StateM Wire Reply := fun wire =>
  if request.isSendable then
    let sent := request :: wire.sent
    (wire.server sent, { wire with sent := sent })
  else (.dropped, wire)

/-- Statuses from 400 on are failures. -/
def failureCode : Nat := 400

/-- The reason that a failed request is given, if its body gives one. -/
def reasonOf (body : String) : String :=
  match Json.parse body with
  | .ok document =>
      match document.get? "message" with
      | some (.text reason) => reason
      | _ => ""
  | .error _ => ""

def bodyOf (request : Request) : Reply → Except ClientError String
  | .dropped => .error .noAnswer
  | .answer status body =>
      if status ≥ failureCode then .error (.status status request.url (reasonOf body)) else .ok body

/-- Sends a request and decodes the body of a successful answer. -/
def ask {α : Type} (request : Request) (decode : String → Except Json.Fault α) :
    StateM Wire (Except ClientError α) := do
  let reply ← send request
  return do
    let body ← bodyOf request reply
    (decode body).mapError fun _ => .unusableBody

def retryMessage (policy : RetryPolicy) (attempt : Nat) (error : ClientError)
    (delay : Duration) : String :=
  "Attempt " ++ Text.Decimal.write attempt ++ "/" ++ Text.Decimal.write policy.maxAttempts ++
    " failed: " ++ error.message ++ ", retrying in " ++ delay.describe

/-- Tries again after failures that may pass, from the given attempt on. -/
def retryFrom {α : Type} (policy : RetryPolicy) (action : StateM Wire (Except ClientError α))
    (attempt : Nat) : StateM Wire (Except ClientError α) := do
  match ← action with
  | .ok value => return .ok value
  | .error error =>
      if !error.isRetryable then return .error error
      else
        match found : policy.delayAfter attempt with
        | some delay => do
            note .warn (retryMessage policy attempt error delay)
            wait delay
            retryFrom policy action (attempt + 1)
        | none =>
            return .error (if attempt > 1 then .retriesExhausted attempt error.message else error)
termination_by policy.maxAttempts - attempt
decreasing_by
  have := RetryPolicy.attempt_lt_of_delayAfter found
  omega

def withRetry {α : Type} (policy : RetryPolicy) (action : StateM Wire (Except ClientError α)) :
    StateM Wire (Except ClientError α) :=
  retryFrom policy action 1

end Wire

end CollectionTypes
