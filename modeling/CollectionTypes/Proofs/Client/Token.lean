import CollectionTypes.Proofs.Client.Course

/-!
The token of a client over a whole history of calls. A client holds the token that was granted last
and no other; signing in changes it only by success, and listing never does. The server may reply as
it likes, also in a way that depends on all earlier requests. What it makes of a token is no part of
this, and neither is a second client.
-/

namespace CollectionTypes.Client

inductive Call where
  | signIn (credentials : Credentials)
  | list

structure Connection where
  client : Client
  wire : Wire

inductive Event where
  | signIn (credentials : Credentials) (result : Except ClientError Unit)
  | list (result : Except ClientError (List Collection))

structure Exchange where
  event : Event
  before : Connection
  after : Connection

def Call.exchange (before : Connection) : Call → Exchange
  | .signIn credentials =>
      let ((result, client), wire) := authenticate credentials before.client before.wire
      ⟨.signIn credentials result, before, ⟨client, wire⟩⟩
  | .list =>
      let (result, wire) := before.client.fetchCollections before.wire
      ⟨.list result, before, ⟨before.client, wire⟩⟩

def exchanges (start : Connection) : List Call → List Exchange
  | [] => []
  | call :: calls => call.exchange start :: exchanges (call.exchange start).after calls

def lastToken? (wire : Wire) : Option String :=
  match wire.server wire.sent with
  | .answer _ body => (tokenOfBody body).toOption
  | .dropped => none

def Exchange.granted? (exchange : Exchange) : Option String :=
  match exchange.event with
  | .signIn _ (.ok ()) => lastToken? exchange.after.wire
  | _ => none

def latestGrant (history : List Exchange) : Option String :=
  history.reverse.findSome? (·.granted?)

/-- Signing in sends copies of one request. If it succeeds, the reply to the last of them is a
success whose token is not empty and is kept; if it fails, whatever the reason, the client is as
before. -/
def SignsIn (credentials : Credentials) (result : Except ClientError Unit)
    (before after : Connection) : Prop :=
  let request := before.client.signInRequest credentials
  (∃ count, Wire.Extends before.wire after.wire (List.replicate count request)) ∧
  match result with
  | .error _ => after.client = before.client
  | .ok () => ∃ token, token ≠ "" ∧ after.client = { before.client with token := some token } ∧
      (∃ earlier, after.wire.sent = request :: earlier) ∧
      ∃ status < Wire.failureCode, ∃ body,
        after.wire.server after.wire.sent = .answer status body ∧ tokenOfBody body = .ok token

/-- Listing leaves the client as it is. Without a token nothing is sent; with one, all that is sent
are requests for pages with that token, and what is returned is what the listing comes to. -/
def Lists (known : Option String) (result : Except ClientError (List Collection))
    (before after : Connection) : Prop :=
  after.client = before.client ∧
  match known with
  | none => result = .error .missingToken ∧ after.wire = before.wire
  | some token =>
      (∃ requests, Wire.Extends before.wire after.wire requests ∧
        before.client.PageRequests token requests) ∧
      ∀ other, (∃ final, before.client.Concludes token before.wire other final) ↔ other = result

section Step

/-- Signing in as a function of what the request comes to. -/
theorem authenticate_eq (credentials : Credentials) (client : Client) (wire : Wire) :
    authenticate credentials client wire =
      match Wire.withRetry client.retry
        (Wire.ask (client.signInRequest credentials) tokenOfBody) wire with
      | (.error error, next) => ((.error error, client), next)
      | (.ok token, next) =>
          if token.isEmpty then ((.error .missingToken, client), next)
          else ((.ok (), { client with token := some token }),
            (Wire.note .info ("Authenticated as " ++ credentials.email) next).2) := by
  have returned {α : Type} (value : α) (wire : Wire) :
      (pure value : StateM Wire α) wire = (value, wire) := rfl
  simp only [authenticate, bind, StateT.bind, get, getThe, MonadStateOf.get, StateT.get, liftM,
    monadLift, MonadLift.monadLift, StateT.lift, returned]
  rcases Wire.withRetry client.retry
    (Wire.ask (client.signInRequest credentials) tokenOfBody) wire with ⟨reply, next⟩
  cases reply with
  | error error => rfl
  | ok token =>
      by_cases empty : token.isEmpty = true
      · simp only [if_pos empty]
        rfl
      · simp only [if_neg empty]
        rfl

/-- Listing as a function of what the pages come to. -/
theorem fetch_collections_eq (client : Client) (wire : Wire) :
    client.fetchCollections wire =
      match client.token with
      | none => (.error .missingToken, wire)
      | some token =>
          match client.fetchFrom token 1 wire with
          | (.error error, next) => (.error error, next)
          | (.ok collections, next) =>
              (.ok collections, (Wire.note .info (client.fetchedMessage collections) next).2) := by
  simp only [fetchCollections, bind, pure]
  cases client.token with
  | none => rfl
  | some token =>
      simp only [StateT.bind]
      rcases client.fetchFrom token 1 wire with ⟨result, next⟩
      cases result <;> rfl

theorem extends_of_note {before after : Wire} {requests : List Request} (level : Log.Level)
    (text : String) (extended : Wire.Extends before after requests) :
    Wire.Extends before (Wire.note level text after).2 requests :=
  ⟨extended.server, extended.sent⟩

theorem signs_in {credentials : Credentials} {before after : Connection}
    {result : Except ClientError Unit}
    (ran : authenticate credentials before.client before.wire =
      ((result, after.client), after.wire)) :
    SignsIn credentials result before after := by
  have asked : Wire.Asked (before.client.signInRequest credentials) tokenOfBody before.wire _ _ :=
    Wire.asked_of_with_retry before.client.retry before.wire
  rw [authenticate_eq] at ran
  rcases retried : Wire.withRetry before.client.retry
    (Wire.ask (before.client.signInRequest credentials) tokenOfBody) before.wire with ⟨reply, next⟩
  rw [retried] at asked ran
  obtain ⟨count, copies⟩ := asked.copies
  obtain ⟨kept, last⟩ := after
  cases reply with
  | error error =>
      obtain ⟨⟨rfl, rfl⟩, rfl⟩ := ran
      exact ⟨⟨count, copies⟩, rfl⟩
  | ok token =>
      by_cases empty : token.isEmpty = true
      · simp only [if_pos empty] at ran
        obtain ⟨⟨rfl, rfl⟩, rfl⟩ := ran
        exact ⟨⟨count, copies⟩, rfl⟩
      · simp only [if_neg empty] at ran
        obtain ⟨⟨rfl, rfl⟩, rfl⟩ := ran
        refine ⟨⟨count, extends_of_note _ _ copies⟩, token, ?_, rfl, asked.answered token rfl⟩
        rintro rfl
        exact empty rfl

theorem lists (before : Connection) :
    let (result, wire) := before.client.fetchCollections before.wire
    Lists before.client.token result before ⟨before.client, wire⟩ := by
  rw [fetch_collections_eq]
  refine ⟨rfl, ?_⟩
  cases before.client.token with
  | none => exact ⟨rfl, rfl⟩
  | some token =>
      rcases ran : before.client.fetchFrom token 1 before.wire with ⟨result, next⟩
      have concluded := concludes_iff.mpr ran
      obtain ⟨requests, extended, paged⟩ := concluded.requests
      have unique (other : Except ClientError (List Collection)) :
          (∃ final, before.client.Concludes token before.wire other final) ↔ other = result := by
        constructor
        · rintro ⟨final, course⟩
          rw [concludes_iff, ran] at course
          exact (Prod.mk.inj course).1.symm
        · rintro rfl
          exact ⟨next, concluded⟩
      simp only [ran]
      cases result with
      | error error => exact ⟨⟨requests, extended, paged⟩, unique⟩
      | ok collections => exact ⟨⟨requests, extends_of_note _ _ extended, paged⟩, unique⟩

end Step

/-- An exchange as it should be when `known` is the token granted last. -/
def Exchange.Follows (known : Option String) (exchange : Exchange) : Prop :=
  exchange.before.client.token = known ∧ known ≠ some "" ∧
  exchange.after.client.token = exchange.granted?.or known ∧
  exchange.after.client.token ≠ some "" ∧
  match exchange.event with
  | .signIn credentials result => SignsIn credentials result exchange.before exchange.after
  | .list result => Lists known result exchange.before exchange.after

section Run

variable {start before : Connection} {calls : List Call} {history later : List Exchange}
  {exchange : Exchange}

theorem last_token_of_reply {wire : Wire} {status : Nat} {body token : String}
    (replied : wire.server wire.sent = .answer status body) (held : tokenOfBody body = .ok token) :
    lastToken? wire = some token := by
  simp only [lastToken?, replied, held]
  rfl

theorem Call.follows (call : Call) (held : before.client.token ≠ some "") :
    (call.exchange before).Follows before.client.token := by
  cases call with
  | list =>
      have listed := lists before
      exact ⟨rfl, held, rfl, held, listed⟩
  | signIn credentials =>
      rw [Call.exchange]
      rcases ran : authenticate credentials before.client before.wire with ⟨⟨result, client⟩, wire⟩
      have signed : SignsIn credentials result before ⟨client, wire⟩ := signs_in ran
      have kept := signed.2
      cases result with
      | error error =>
          obtain rfl : client = before.client := kept
          exact ⟨rfl, held, rfl, held, signed⟩
      | ok done =>
          obtain ⟨token, filled, rfl, _, status, _, body, replied, read⟩ := kept
          have granted := last_token_of_reply replied read
          refine ⟨rfl, held, ?_, fun empty => filled (Option.some.inj empty), signed⟩
          simp [Exchange.granted?, granted]

theorem latest_grant_cons (first : Exchange) (rest : List Exchange) :
    latestGrant (first :: rest) = (latestGrant rest).or first.granted? := by
  simp [latestGrant, List.findSome?_append]

/-- By induction on the exchanges before: what each leaves behind is what the next begins with. -/
theorem exchange_follows (held : start.client.token ≠ some "")
    (made : exchanges start calls = history ++ exchange :: later) :
    exchange.Follows ((latestGrant history).or start.client.token) := by
  induction history generalizing start calls with
  | nil =>
      cases calls with
      | nil => contradiction
      | cons call calls =>
          obtain ⟨rfl, _⟩ := List.cons.inj made
          exact call.follows held
  | cons first history induction =>
      cases calls with
      | nil => contradiction
      | cons call calls =>
          obtain ⟨rfl, rest⟩ := List.cons.inj made
          obtain ⟨_, _, granted, filled, _⟩ := call.follows held
          rw [latest_grant_cons, Option.or_assoc, ← granted]
          exact induction filled rest

end Run

def grantText : String := "\x7b\"token\":\"t\"\x7d"

theorem token_of_grant_text : tokenOfBody grantText = .ok "t" := by decide +kernel

def grudgingServer : Server := fun seen =>
  if seen.length = 1 then .answer 200 grantText else .answer 403 ""

def newcomer : Connection := ⟨{ host := "http://localhost" }, { server := grudgingServer }⟩

def visitor : Credentials := { host := "http://localhost", email := "a@b", password := "p" }

def grantedWire : Wire where
  server := grudgingServer
  sent := [newcomer.client.signInRequest visitor]

theorem newcomer_granted :
    (Call.signIn visitor).exchange newcomer = ⟨.signIn visitor (.ok ()), newcomer,
      ⟨{ newcomer.client with token := some "t" },
        (Wire.note .info "Authenticated as a@b" grantedWire).2⟩⟩ := by
  have replied : Wire.withRetry newcomer.client.retry
      (Wire.ask (newcomer.client.signInRequest visitor) tokenOfBody) newcomer.wire =
        (.ok "t", grantedWire) :=
    Wire.retry_from_ok (Wire.ask_of_answer rfl rfl (by decide) token_of_grant_text)
  rw [Call.exchange, authenticate_eq, replied]
  rfl

theorem newcomer_rejected :
    ((Call.signIn visitor).exchange ((Call.signIn visitor).exchange newcomer).after).granted? =
      none := by
  rw [newcomer_granted]
  let known : Connection := ⟨{ newcomer.client with token := some "t" },
    (Wire.note .info "Authenticated as a@b" grantedWire).2⟩
  have refused : Wire.ask (known.client.signInRequest visitor) tokenOfBody known.wire =
      (.error (.status 403 (known.client.signInRequest visitor).url (Wire.reasonOf "")), _) :=
    Wire.ask_of_refusal tokenOfBody rfl rfl (by decide)
  have failed : Wire.withRetry known.client.retry
      (Wire.ask (known.client.signInRequest visitor) tokenOfBody) known.wire = _ :=
    Wire.retry_from_lasting rfl refused
  show ((Call.signIn visitor).exchange known).granted? = none
  rw [Call.exchange, authenticate_eq, failed]
  rfl

end CollectionTypes.Client
