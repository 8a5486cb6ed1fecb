import CollectionTypes.Client.Duration

/-!
How often a request is tried, and how long to wait in between: the delay doubles with each failed
attempt up to a limit.
-/

namespace CollectionTypes

structure RetryPolicy where
  /-- Attempts for one request, the first one included. -/
  maxAttempts : Nat := 3
  initialDelay : Duration := .ofMilliseconds 250
  maxDelay : Duration := .ofMilliseconds 5000
deriving DecidableEq, Repr, Inhabited

namespace RetryPolicy

def once : RetryPolicy := { maxAttempts := 1 }

/-- Factors have 32 bits: after 32 doublings the factor stays at the greatest one. -/
def factorBits : Nat := 32

def delayFactor (doublings : Nat) : Nat :=
  if doublings < factorBits then Nat.pow 2 doublings else Nat.pow 2 factorBits - 1

/-- The delay after a failed attempt, counted from 1; none after the last one. -/
def delayAfter (policy : RetryPolicy) (attempt : Nat) : Option Duration :=
  if attempt = 0 || attempt ≥ policy.maxAttempts then none
  else some ((policy.initialDelay.times (delayFactor (attempt - 1))).atMost policy.maxDelay)

theorem attempt_lt_of_delayAfter {policy : RetryPolicy} {attempt : Nat} {delay : Duration}
    (found : policy.delayAfter attempt = some delay) : attempt < policy.maxAttempts := by
  unfold delayAfter at found
  split at found
  · contradiction
  · rename_i within
    simp only [ge_iff_le, Bool.or_eq_true, decide_eq_true_eq, not_or, Nat.not_le] at within
    exact within.2

end RetryPolicy

end CollectionTypes
