import CollectionTypes.Client.Wire
import CollectionTypes.Proofs.Client.Delays

/-!
The attempts at one request. A request that fails a few times in ways that may pass, and is then
answered, gives what the answer says, as long as the failures are fewer than the attempts; on the
wire stand the attempts and nothing else. What a server replies may depend on all that it has seen,
so that the failures can come in any pattern. Requests that are never answered are no part of this.
-/

namespace CollectionTypes

def Reply.mayPass : Reply → Bool
  | .dropped => true
  | .answer status _ => status ≥ ClientError.serverFaultCode

/-- What the server makes of a request that comes after some others: it fails this many times in
ways that may pass, and is then answered with a body. -/
structure Recovers (server : Server) (earlier : List Request) (request : Request)
    (failures : Nat) (body : String) : Prop where
  sendable : request.isSendable = true
  failing : ∀ attempt < failures,
    (server (List.replicate (attempt + 1) request ++ earlier)).mayPass = true
  answered : ∃ status < Wire.failureCode,
    server (List.replicate (failures + 1) request ++ earlier) = .answer status body

theorem Recovers.after_failure {server : Server} {earlier : List Request} {request : Request}
    {failures : Nat} {body : String}
    (recovers : Recovers server earlier request (failures + 1) body) :
    Recovers server (request :: earlier) request failures body := by
  have moved (count : Nat) : List.replicate (count + 1) request ++ earlier =
      List.replicate count request ++ request :: earlier := by
    rw [List.replicate_succ', List.append_assoc]
    rfl
  refine ⟨recovers.sendable, ?_, ?_⟩
  · intro attempt before
    rw [← moved]
    exact recovers.failing (attempt + 1) (by omega)
  · rw [← moved]
    exact recovers.answered

namespace Wire

/-- What a part of a session leaves behind: the same server, and some more requests, the last one
first. Waits and messages are not looked at. -/
structure Extends (before after : Wire) (requests : List Request) : Prop where
  server : after.server = before.server
  sent : after.sent = requests ++ before.sent

theorem Extends.trans {first second third : Wire} {earlier later : List Request}
    (before : Extends first second earlier) (after : Extends second third later) :
    Extends first third (later ++ earlier) := by
  refine ⟨after.server.trans before.server, ?_⟩
  rw [after.sent, before.sent, List.append_assoc]

section Ask

variable {α : Type} {request : Request} {wire : Wire}

theorem send_of_sendable (wire : Wire) (sendable : request.isSendable = true) :
    send request wire =
      (wire.server (request :: wire.sent), { wire with sent := request :: wire.sent }) := by
  simp [send, sendable]

theorem ask_of_answer {decode : String → Except Json.Fault α} {status : Nat} {body : String}
    {value : α} (sendable : request.isSendable = true)
    (answered : wire.server (request :: wire.sent) = .answer status body)
    (success : status < failureCode) (decoded : decode body = .ok value) :
    ask request decode wire = (.ok value, { wire with sent := request :: wire.sent }) := by
  have accepted : bodyOf request (.answer status body) = .ok body := by
    rw [bodyOf, if_neg (by omega)]
  have sent := send_of_sendable wire sendable
  rw [answered] at sent
  simp only [ask, bind, StateT.bind, sent, accepted, Except.bind, decoded]
  rfl

theorem ask_of_refusal (decode : String → Except Json.Fault α) {status : Nat} {body : String}
    (sendable : request.isSendable = true)
    (answered : wire.server (request :: wire.sent) = .answer status body)
    (failure : status ≥ failureCode) :
    ask request decode wire = (.error (.status status request.url (reasonOf body)),
      { wire with sent := request :: wire.sent }) := by
  have refused : bodyOf request (.answer status body) =
      .error (.status status request.url (reasonOf body)) := by
    rw [bodyOf, if_pos failure]
  have sent := send_of_sendable wire sendable
  rw [answered] at sent
  simp only [ask, bind, StateT.bind, sent, refused, Except.bind]
  rfl

theorem ask_of_failure (decode : String → Except Json.Fault α)
    (sendable : request.isSendable = true)
    (failed : (wire.server (request :: wire.sent)).mayPass = true) :
    ∃ error : ClientError, error.isRetryable = true ∧
      ask request decode wire = (.error error, { wire with sent := request :: wire.sent }) := by
  cases reply : wire.server (request :: wire.sent) with
  | dropped =>
      have sent := send_of_sendable wire sendable
      rw [reply] at sent
      refine ⟨.noAnswer, rfl, ?_⟩
      simp only [ask, bind, StateT.bind, sent]
      rfl
  | answer status body =>
      rw [reply] at failed
      have fault : status ≥ ClientError.serverFaultCode := of_decide_eq_true failed
      have failure : status ≥ failureCode := Nat.le_trans (by decide) fault
      exact ⟨.status status request.url (reasonOf body), failed,
        ask_of_refusal decode sendable reply failure⟩

end Ask

section Retry

variable {α : Type} {policy : RetryPolicy} {action : StateM Wire (Except ClientError α)}
  {attempt : Nat} {wire next : Wire}

/-- One attempt, and what follows from its result. -/
theorem retry_from_eq (policy : RetryPolicy) (action : StateM Wire (Except ClientError α))
    (attempt : Nat) :
    retryFrom policy action attempt = action >>= fun result =>
      match result with
      | .ok value => pure (.ok value)
      | .error error =>
          if !error.isRetryable then pure (.error error)
          else
            match policy.delayAfter attempt with
            | some delay => do
                note .warn (retryMessage policy attempt error delay)
                wait delay
                retryFrom policy action (attempt + 1)
            | none =>
                pure (.error
                  (if attempt > 1 then .retriesExhausted attempt error.message else error)) := by
  rw [retryFrom]
  congr 1
  funext result
  cases result with
  | ok value => rfl
  | error error =>
      simp only
      congr 1
      split <;> rename_i found <;> rw [found]

theorem retry_from_ok {value : α} (ran : action wire = (.ok value, next)) :
    retryFrom policy action attempt wire = (.ok value, next) := by
  rw [retry_from_eq]
  simp only [bind, StateT.bind, ran]
  rfl

def pausedFor (wire : Wire) (policy : RetryPolicy) (attempt : Nat) (error : ClientError)
    (delay : Duration) : Wire :=
  { wire with
    waits := wire.waits ++ [delay]
    log := wire.log ++ [⟨.warn, retryMessage policy attempt error delay⟩] }

theorem retry_from_pause {error : ClientError} {delay : Duration}
    (retryable : error.isRetryable = true) (found : policy.delayAfter attempt = some delay)
    (ran : action wire = (.error error, next)) :
    retryFrom policy action attempt wire =
      retryFrom policy action (attempt + 1) (next.pausedFor policy attempt error delay) := by
  rw [retry_from_eq]
  simp only [bind, StateT.bind, ran, retryable, found]
  rfl

theorem retry_from_last {error : ClientError} (retryable : error.isRetryable = true)
    (last : policy.delayAfter attempt = none) (ran : action wire = (.error error, next)) :
    retryFrom policy action attempt wire = (.error
      (if attempt > 1 then .retriesExhausted attempt error.message else error), next) := by
  rw [retry_from_eq]
  simp only [bind, StateT.bind, ran, retryable, last]
  rfl

theorem retry_from_lasting {error : ClientError} (lasting : error.isRetryable = false)
    (ran : action wire = (.error error, next)) :
    retryFrom policy action attempt wire = (.error error, next) := by
  rw [retry_from_eq]
  simp only [bind, StateT.bind, ran, lasting]
  rfl

/-- A failed attempt is the last one if its failure will not pass, or if no attempt is left. -/
theorem retry_from_cases (policy : RetryPolicy) (action : StateM Wire (Except ClientError α))
    (attempt : Nat) {error : ClientError} (ran : action wire = (.error error, next)) :
    (error.isRetryable = false ∧ retryFrom policy action attempt wire = (.error error, next)) ∨
    (error.isRetryable = true ∧ policy.delayAfter attempt = none ∧
      retryFrom policy action attempt wire = (.error
        (if attempt > 1 then .retriesExhausted attempt error.message else error), next)) ∨
    (error.isRetryable = true ∧ attempt < policy.maxAttempts ∧ ∃ waited, Extends next waited [] ∧
      retryFrom policy action attempt wire = retryFrom policy action (attempt + 1) waited) := by
  cases retryable : error.isRetryable with
  | false => exact .inl ⟨rfl, retry_from_lasting retryable ran⟩
  | true =>
      cases found : policy.delayAfter attempt with
      | none => exact .inr (.inl ⟨rfl, rfl, retry_from_last retryable found ran⟩)
      | some delay =>
          exact .inr (.inr ⟨rfl, RetryPolicy.attempt_lt_of_delayAfter found,
            next.pausedFor policy attempt error delay, ⟨rfl, rfl⟩,
            retry_from_pause retryable found ran⟩)

/-- An attempt that fails in a way that may pass is followed by the next one, if there is one. -/
theorem retry_from_failure {error : ClientError} (retryable : error.isRetryable = true)
    (started : 1 ≤ attempt) (before : attempt < policy.maxAttempts)
    (ran : action wire = (.error error, next)) :
    ∃ waited, Extends next waited [] ∧
      retryFrom policy action attempt wire = retryFrom policy action (attempt + 1) waited := by
  obtain ⟨delay, found⟩ := RetryPolicy.delay_after_some started before
  exact ⟨next.pausedFor policy attempt error delay, ⟨rfl, rfl⟩,
    retry_from_pause retryable found ran⟩

end Retry

section Asked

variable {α : Type} {request : Request} {decode : String → Except Json.Fault α}

/-- What asking for something leaves behind, however often it was tried: copies of the request and
nothing else, and a value only if the last reply holds it. -/
structure Asked (request : Request) (decode : String → Except Json.Fault α) (before : Wire)
    (result : Except ClientError α) (after : Wire) : Prop where
  copies : ∃ count, Extends before after (List.replicate count request)
  answered : ∀ value, result = .ok value →
    (∃ earlier, after.sent = request :: earlier) ∧
    ∃ status < failureCode, ∃ body, after.server after.sent = .answer status body ∧
      decode body = .ok value

theorem Asked.of_error {before after : Wire} {count : Nat} (error : ClientError)
    (copies : Extends before after (List.replicate count request)) :
    Asked request decode before (.error error) after :=
  ⟨⟨count, copies⟩, fun _ same => by contradiction⟩

theorem asked_of_ask (request : Request) (decode : String → Except Json.Fault α) (wire : Wire) :
    Asked request decode wire (ask request decode wire).1 (ask request decode wire).2 := by
  cases sendable : request.isSendable with
  | false =>
      have unsent : ask request decode wire = (.error .noAnswer, wire) := by
        have dropped : send request wire = (.dropped, wire) := by simp [send, sendable]
        simp only [ask, bind, StateT.bind, dropped]
        rfl
      have none : Extends wire wire (List.replicate 0 request) := ⟨rfl, rfl⟩
      rw [unsent]
      exact .of_error _ none
  | true =>
      have sent := send_of_sendable wire sendable
      have copies : Extends wire { wire with sent := request :: wire.sent }
          (List.replicate 1 request) := ⟨rfl, rfl⟩
      simp only [ask, bind, StateT.bind, sent]
      cases reply : wire.server (request :: wire.sent) with
      | dropped => exact .of_error _ copies
      | answer status body =>
          by_cases failed : status ≥ failureCode
          · simp only [bodyOf, if_pos failed, Except.bind]
            exact .of_error _ copies
          · simp only [bodyOf, if_neg failed, Except.bind]
            cases decoded : decode body with
            | error fault => exact .of_error _ copies
            | ok value =>
                refine ⟨⟨1, copies⟩, fun other same => ?_⟩
                obtain rfl : value = other := Except.ok.inj same
                exact ⟨⟨wire.sent, rfl⟩, status, by omega, body, reply, decoded⟩

/-- By induction on the attempts that are left. -/
theorem asked_of_retry_from (policy : RetryPolicy) (attempt : Nat) (wire : Wire) :
    Asked request decode wire (retryFrom policy (ask request decode) attempt wire).1
      (retryFrom policy (ask request decode) attempt wire).2 := by
  induction left : policy.maxAttempts - attempt using Nat.strongRecOn generalizing attempt wire with
  | ind left induction =>
      have once := asked_of_ask request decode wire
      rcases ran : ask request decode wire with ⟨result, next⟩
      rw [ran] at once
      obtain ⟨count, copies⟩ := once.copies
      cases result with
      | ok value =>
          rw [retry_from_ok ran]
          exact once
      | error error =>
          rcases retry_from_cases policy _ attempt ran with
            ⟨_, stopped⟩ | ⟨_, _, stopped⟩ | ⟨_, before, waited, idle, again⟩
          · rw [stopped]
            exact .of_error _ copies
          · rw [stopped]
            exact .of_error _ copies
          · have later := induction _ (by omega) (attempt + 1) waited rfl
            rw [again]
            obtain ⟨more, rest⟩ := later.copies
            have all := (copies.trans idle).trans rest
            rw [List.nil_append, List.replicate_append_replicate] at all
            exact ⟨⟨_, all⟩, later.answered⟩

theorem asked_of_with_retry (policy : RetryPolicy) (wire : Wire) :
    Asked request decode wire (withRetry policy (ask request decode) wire).1
      (withRetry policy (ask request decode) wire).2 :=
  asked_of_retry_from policy 1 wire

end Asked

section Recovery

variable {α : Type} {policy : RetryPolicy} {request : Request}
  {decode : String → Except Json.Fault α} {body : String} {value : α}

/-- From any attempt on, as long as the failures that are left are fewer than the attempts. -/
theorem retry_from_recovers {failures attempt : Nat} {wire : Wire} (started : 1 ≤ attempt)
    (enough : attempt + failures ≤ policy.maxAttempts)
    (recovers : Recovers wire.server wire.sent request failures body)
    (decoded : decode body = .ok value) :
    ∃ next, retryFrom policy (ask request decode) attempt wire = (.ok value, next) ∧
      Extends wire next (List.replicate (failures + 1) request) := by
  induction failures generalizing attempt wire with
  | zero =>
      obtain ⟨status, success, answered⟩ := recovers.answered
      exact ⟨_, retry_from_ok (ask_of_answer recovers.sendable answered success decoded), rfl, rfl⟩
  | succ failures induction =>
      have failed := recovers.failing 0 (by omega)
      obtain ⟨error, retryable, ran⟩ := ask_of_failure decode recovers.sendable failed
      have before : attempt < policy.maxAttempts := by omega
      obtain ⟨waited, idle, again⟩ := retry_from_failure retryable started before ran
      have later : Recovers waited.server waited.sent request failures body := by
        rw [idle.server, idle.sent]
        exact recovers.after_failure
      obtain ⟨next, result, rest⟩ := induction (Nat.le_add_left 1 attempt) (by omega) later
      have first : Extends wire { wire with sent := request :: wire.sent } [request] := ⟨rfl, rfl⟩
      have all := (first.trans idle).trans rest
      refine ⟨next, again.trans result, ?_⟩
      rwa [List.nil_append, ← List.replicate_succ'] at all

theorem with_retry_recovers {failures : Nat} {wire : Wire} (few : failures < policy.maxAttempts)
    (recovers : Recovers wire.server wire.sent request failures body)
    (decoded : decode body = .ok value) :
    ∃ next, withRetry policy (ask request decode) wire = (.ok value, next) ∧
      Extends wire next (List.replicate (failures + 1) request) :=
  retry_from_recovers (Nat.le_refl 1) (by omega) recovers decoded

end Recovery

end Wire

end CollectionTypes
