import CollectionTypes.Client.Basic
import CollectionTypes.Proofs.Client.Attempts

/-!
How often a request is made, and what comes of it. It is made until an outcome settles it, or until
no attempt is left; the attempts are those of a client that any choices were made for. Between two
attempts the client waits, and it never waits less than before. A request is anything that comes to
one outcome after the other; how long it takes to come to them is no part of this.
-/

namespace CollectionTypes

namespace Client

/-- What can be chosen before the first request. How long an answer may take is not kept by a client
here. -/
inductive Choice where
  | timeout (limit : Duration)
  | retries (enabled : Bool)
  | retryDelay (delay : Duration)
  | maxAttempts (count : UInt32)
  | policy (count : UInt32) (initialDelay maxDelay : Duration)
  | perPage (count : UInt32)

def Choice.apply (client : Client) : Choice → Client
  | .timeout _ => client
  | .retries enabled => client.withRetries enabled
  | .retryDelay delay => client.withRetryDelay delay
  | .maxAttempts count => client.withMaxAttempts count.toNat
  | .policy count initialDelay maxDelay =>
      client.withPolicy ⟨count.toNat, initialDelay, maxDelay⟩
  | .perPage count => client.withPerPage count.toNat

def configured (host : String) (choices : List Choice) : Client :=
  choices.foldl Choice.apply (forHost host)

def AttemptsCounted (client : Client) : Prop :=
  1 ≤ client.retry.maxAttempts ∧ client.retry.maxAttempts < 2 ^ 32

theorem standard_attempts : ({ host := "" } : Client).AttemptsCounted := ⟨by decide, by decide⟩

theorem Choice.apply_attempts {client : Client} (choice : Choice)
    (kept : client.AttemptsCounted) : (choice.apply client).AttemptsCounted := by
  cases choice with
  | timeout | retryDelay | perPage => exact kept
  | retries enabled =>
      cases enabled with
      | true => exact standard_attempts
      | false => exact ⟨Nat.le_refl 1, Nat.one_lt_two_pow (by decide)⟩
  | maxAttempts count | policy count =>
      have bounded := count.toNat_lt
      constructor <;> simp only [apply, withMaxAttempts, withPolicy] <;> omega

theorem configured_attempts (host : String) (choices : List Choice) :
    (configured host choices).AttemptsCounted :=
  List.foldlRecOn choices Choice.apply standard_attempts
    fun _ kept choice _ => choice.apply_attempts kept

end Client

section Outcomes

variable {α : Type}

def isSettled : Except ClientError α → Bool
  | .ok _ => true
  | .error error => !error.isRetryable

def settledWithin? (outcomes : Nat → Except ClientError α) (first count : Nat) : Option Nat :=
  (List.range' first count).find? fun attempt => isSettled (outcomes attempt)

/-- What is made of the outcome of the last attempt if it settles nothing. -/
def exhausted (limit : Nat) : Except ClientError α → Except ClientError α
  | .ok value => .ok value
  | .error error => .error (if limit = 1 then error else .retriesExhausted limit error.message)

def verdict (outcomes : Nat → Except ClientError α) (limit : Nat) :
    Option Nat → Except ClientError α
  | some attempt => outcomes attempt
  | none => exhausted limit (outcomes limit)

def SettlesFirst (outcomes : Nat → Except ClientError α) (attempt : Nat) : Prop :=
  1 ≤ attempt ∧ isSettled (outcomes attempt) = true ∧
    ∀ earlier, 1 ≤ earlier → earlier < attempt → isSettled (outcomes earlier) = false

theorem settled_within_iff {outcomes : Nat → Except ClientError α} {limit attempt : Nat} :
    settledWithin? outcomes 1 limit = some attempt ↔
      attempt ≤ limit ∧ SettlesFirst outcomes attempt := by
  rw [settledWithin?, List.find?_range'_eq_some, List.mem_range'_1, SettlesFirst]
  simp only [Bool.not_eq_true']
  constructor
  · rintro ⟨settled, ⟨started, within⟩, first⟩
    exact ⟨by omega, started, settled, first⟩
  · rintro ⟨within, started, settled, first⟩
    exact ⟨settled, ⟨started, by omega⟩, first⟩

theorem settled_within_step (outcomes : Nat → Except ClientError α) {attempt limit : Nat}
    (within : attempt < limit) :
    settledWithin? outcomes (attempt + 1) (limit - attempt) =
      if isSettled (outcomes (attempt + 1)) then some (attempt + 1)
      else settledWithin? outcomes (attempt + 1 + 1) (limit - (attempt + 1)) := by
  obtain ⟨left, count⟩ : ∃ left, limit - attempt = left + 1 := ⟨limit - attempt - 1, by omega⟩
  have fewer : limit - (attempt + 1) = left := by omega
  rw [settledWithin?, count, fewer, List.range'_succ, List.find?_cons]
  cases isSettled (outcomes (attempt + 1)) <;> rfl

end Outcomes

namespace Wire

section Steps

variable {α : Type} {policy : RetryPolicy} {action : StateM Wire (Except ClientError α)}
  {attempt : Nat} {wire next : Wire} {outcome : Except ClientError α}

theorem retry_from_settled (settled : isSettled outcome = true)
    (ran : action wire = (outcome, next)) :
    retryFrom policy action attempt wire = (outcome, next) := by
  cases outcome with
  | ok value => exact retry_from_ok ran
  | error error => exact retry_from_lasting (Bool.not_eq_true' _ ▸ settled) ran

theorem retry_from_unsettled {delay : Duration} (unsettled : isSettled outcome = false)
    (found : policy.delayAfter attempt = some delay) (ran : action wire = (outcome, next)) :
    ∃ entry, retryFrom policy action attempt wire = retryFrom policy action (attempt + 1)
      { next with waits := next.waits ++ [delay], log := next.log ++ [entry] } := by
  cases outcome with
  | ok value => contradiction
  | error error =>
      exact ⟨_, retry_from_pause (Bool.not_eq_false' _ ▸ unsettled) found ran⟩

theorem retry_from_exhausted (unsettled : isSettled outcome = false) (started : 1 ≤ attempt)
    (last : attempt = policy.maxAttempts) (ran : action wire = (outcome, next)) :
    retryFrom policy action attempt wire = (exhausted policy.maxAttempts outcome, next) := by
  cases outcome with
  | ok value => contradiction
  | error error =>
      have ends := RetryPolicy.delay_after_none_iff.mpr (.inr (Nat.le_of_eq last.symm))
      rw [retry_from_last (Bool.not_eq_false' _ ▸ unsettled) ends ran, exhausted, ← last]
      by_cases single : attempt = 1
      · rw [if_neg (by omega), if_pos single]
      · rw [if_pos (by omega), if_neg single]

end Steps

variable {α : Type}

def having (start : Wire) (request : Request) (count : Nat) (pauses : List Duration)
    (entries : List Log.Entry) : Wire :=
  { start with
    sent := (if request.isSendable then List.replicate count request else []) ++ start.sent
    waits := start.waits ++ pauses
    log := start.log ++ entries }

def Paced (policy : RetryPolicy) (pauses : List Duration) : Prop :=
  pauses.map some = (List.range' 1 pauses.length).map policy.delayAfter

/-- A request that is made once each time, and whose outcomes come in the given order, counted from
1, if it is made for the first time before any pause and then once after each delay. -/
def ComesTo (start : Wire) (policy : RetryPolicy) (request : Request)
    (action : StateM Wire (Except ClientError α)) (outcomes : Nat → Except ClientError α) : Prop :=
  ∀ (pauses : List Duration) (entries : List Log.Entry), Paced policy pauses →
    action (start.having request pauses.length pauses entries) =
      (outcomes (pauses.length + 1), start.having request (pauses.length + 1) pauses entries)

section Retry

variable {policy : RetryPolicy} {start : Wire} {request : Request}
  {action : StateM Wire (Except ClientError α)} {outcomes : Nat → Except ClientError α}
  {pauses : List Duration}

theorem having_nothing (start : Wire) (request : Request) : start.having request 0 [] [] = start := by
  simp [having]

theorem having_pause (count : Nat) (entries : List Log.Entry) (delay : Duration)
    (entry : Log.Entry) :
    { start.having request count pauses entries with
      waits := (start.having request count pauses entries).waits ++ [delay]
      log := (start.having request count pauses entries).log ++ [entry] } =
        start.having request count (pauses ++ [delay]) (entries ++ [entry]) := by
  simp [having]

theorem Paced.pause {delay : Duration} (paced : Paced policy pauses)
    (found : policy.delayAfter (pauses.length + 1) = some delay) :
    Paced policy (pauses ++ [delay]) := by
  rw [Paced, List.map_append, paced, List.length_append, List.length_singleton, List.range'_concat,
    List.map_append]
  simp [Nat.add_comm, found]

theorem Paced.within_longest (paced : Paced policy pauses) {delay : Duration}
    (member : delay ∈ pauses) : delay.nanoseconds ≤ policy.maxDelay.nanoseconds := by
  have present : some delay ∈ pauses.map some := List.mem_map_of_mem member
  rw [paced] at present
  obtain ⟨attempt, _, found⟩ := List.mem_map.mp present
  exact RetryPolicy.delay_le_longest found

theorem Paced.ascending (paced : Paced policy pauses) :
    pauses.Pairwise (·.nanoseconds ≤ ·.nanoseconds) := by
  let NoLonger (left right : Option Duration) : Prop :=
    ∀ delay later, left = some delay → right = some later → delay.nanoseconds ≤ later.nanoseconds
  have delays : (pauses.map some).Pairwise NoLonger := by
    have attempts : (List.range' 1 pauses.length).Pairwise (· < ·) := List.pairwise_lt_range'
    rw [paced, List.pairwise_map]
    exact attempts.imp fun order _ _ found foundLater =>
      RetryPolicy.delay_le_later found (Nat.le_of_lt order) foundLater
  rw [List.pairwise_map] at delays
  exact delays.imp fun ascends => ascends _ _ rfl rfl

/-- By induction on the attempts that are left. -/
theorem retry_from_comes_to (comes : start.ComesTo policy request action outcomes)
    (entries : List Log.Entry) (paced : Paced policy pauses)
    (within : pauses.length < policy.maxAttempts) :
    let settled :=
      settledWithin? outcomes (pauses.length + 1) (policy.maxAttempts - pauses.length)
    ∃ delays notes, Paced policy delays ∧
      delays.length + 1 = settled.getD policy.maxAttempts ∧
      retryFrom policy action (pauses.length + 1)
          (start.having request pauses.length pauses entries) =
        (verdict outcomes policy.maxAttempts settled,
          start.having request (delays.length + 1) delays notes) := by
  have ran := comes pauses entries paced
  induction left : policy.maxAttempts - pauses.length using Nat.strongRecOn
    generalizing pauses entries with
  | ind left induction =>
      rw [← left, settled_within_step outcomes within]
      cases settled : isSettled (outcomes (pauses.length + 1)) with
      | true => exact ⟨pauses, entries, paced, rfl, retry_from_settled settled ran⟩
      | false =>
          by_cases last : pauses.length + 1 = policy.maxAttempts
          · have nothingLeft : policy.maxAttempts - (pauses.length + 1) = 0 := by omega
            rw [nothingLeft]
            refine ⟨pauses, entries, paced, last, ?_⟩
            rw [retry_from_exhausted settled (Nat.le_add_left 1 _) last ran, last]
            rfl
          · obtain ⟨delay, found⟩ := RetryPolicy.delay_after_some (Nat.le_add_left 1 pauses.length)
              (by omega : pauses.length + 1 < policy.maxAttempts)
            obtain ⟨entry, again⟩ := retry_from_unsettled settled found ran
            rw [having_pause] at again
            have length : (pauses ++ [delay]).length = pauses.length + 1 := by simp
            have longer := paced.pause found
            have next := comes (pauses ++ [delay]) (entries ++ [entry]) longer
            have later := induction _ (by omega) (entries ++ [entry]) longer (by omega) next rfl
            rw [length] at later
            rw [again]
            exact later

/-- A client makes a request up to the first outcome that settles it, but no more often than it may,
and 32 bits can count that. What comes of it is this outcome, or what is made of the last one.
Between the attempts lie the delays, none shorter than the one before or longer than allowed. -/
theorem retries_settle_or_exhaust (host : String) (choices : List Client.Choice)
    (comes : start.ComesTo (Client.configured host choices).retry request action outcomes) :
    let policy := (Client.configured host choices).retry
    let settled := settledWithin? outcomes 1 policy.maxAttempts
    let made := settled.getD policy.maxAttempts
    1 ≤ policy.maxAttempts ∧ policy.maxAttempts < 2 ^ 32 ∧ made ≤ policy.maxAttempts ∧
      (∀ attempt, settled = some attempt ↔
        attempt ≤ policy.maxAttempts ∧ SettlesFirst outcomes attempt) ∧
      ∃ delays entries,
        withRetry policy action start =
          (verdict outcomes policy.maxAttempts settled, start.having request made delays entries) ∧
        delays.map some = (List.range' 1 (made - 1)).map policy.delayAfter ∧
        delays.Pairwise (·.nanoseconds ≤ ·.nanoseconds) ∧
        ∀ delay ∈ delays, delay.nanoseconds ≤ policy.maxDelay.nanoseconds := by
  intro policy settled made
  obtain ⟨positive, countable⟩ := Client.configured_attempts host choices
  have few : made ≤ policy.maxAttempts := by
    cases found : settled with
    | none => simp [made, found]
    | some attempt =>
        have within := (settled_within_iff.mp found).1
        simpa [made, found] using within
  have nothing : Paced policy [] := rfl
  obtain ⟨delays, entries, paced, count, ran⟩ := retry_from_comes_to comes [] nothing positive
  rw [List.length_nil, having_nothing, Nat.sub_zero, Nat.zero_add] at ran
  have attempts : delays.length + 1 = made := count
  have pauses : delays.length = made - 1 := Nat.eq_sub_of_add_eq attempts
  refine ⟨positive, countable, few, fun _ => settled_within_iff, delays, entries, ?_, ?_,
    paced.ascending, fun _ member => paced.within_longest member⟩
  · rw [withRetry, ran, attempts]
  · rw [← pauses]
    exact paced

end Retry

section Replies

variable {request : Request} {decode : String → Except Json.Fault α}

def outcomeOf (request : Request) (decode : String → Except Json.Fault α) (reply : Reply) :
    Except ClientError α := do
  let body ← bodyOf request reply
  (decode body).mapError fun _ => .unusableBody

def replyTo (start : Wire) (request : Request) (attempt : Nat) : Reply :=
  if request.isSendable then start.server (List.replicate attempt request ++ start.sent)
  else .dropped

theorem send_again (start : Wire) (request : Request) (count : Nat) (pauses : List Duration)
    (entries : List Log.Entry) :
    send request (start.having request count pauses entries) =
      (start.replyTo request (count + 1), start.having request (count + 1) pauses entries) := by
  cases sendable : request.isSendable <;>
    simp [send, having, replyTo, sendable, List.replicate_succ]

/-- The outcomes of a request to a server are what its replies come to. -/
theorem ask_comes_to (start : Wire) (policy : RetryPolicy) (request : Request)
    (decode : String → Except Json.Fault α) :
    start.ComesTo policy request (ask request decode) fun attempt =>
      outcomeOf request decode (start.replyTo request attempt) := by
  intro pauses entries _
  have sent := send_again start request pauses.length pauses entries
  simp only [ask, bind, StateT.bind, sent]
  rfl

end Replies

def unreachable : Wire := { server := fun _ => .dropped }

def stubborn : List Client.Choice :=
  [.maxAttempts 0, .retries true, .timeout (.ofMilliseconds 200), .retryDelay (.ofMilliseconds 1)]

theorem retries_settle_or_exhaust_unreachable :
    let policy := (Client.configured "localhost" stubborn).retry
    let request := Client.pageRequest { host := "http://localhost" } "t" 1
    (unreachable.ComesTo policy request (ask request Listing.ofText) fun _ => .error .noAnswer) ∧
      ∃ delays entries,
        withRetry policy (ask request Listing.ofText) unreachable =
          (.error (.retriesExhausted 3 "transport error: <transport>"),
            unreachable.having request 3 delays entries) ∧
        delays.map some = [some (.ofMilliseconds 1), some (.ofMilliseconds 2)] := by
  intro policy request
  have comes : unreachable.ComesTo policy request (ask request Listing.ofText)
      fun _ => .error .noAnswer := ask_comes_to unreachable policy request Listing.ofText
  obtain ⟨_, _, _, _, delays, entries, ran, paced, _⟩ :=
    retries_settle_or_exhaust "localhost" stubborn comes
  exact ⟨comes, delays, entries, ran, paced⟩

end Wire

end CollectionTypes
