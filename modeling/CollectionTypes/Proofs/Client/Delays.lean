import CollectionTypes.Client.Retry
import Mathlib.Algebra.Group.Nat.Defs

/-!
The delays between the attempts at one request. They grow from attempt to attempt, up to the longest
one that is allowed. While a factor of 32 bits counts the doublings, each delay is twice the one
before; a full factor grows no more, so that a short first delay may never reach a long limit.
-/

namespace CollectionTypes.RetryPolicy

def greatestFactor : Nat := 2 ^ factorBits - 1

def doubledDelay (policy : RetryPolicy) (attempt : Nat) : Duration :=
  ⟨min (policy.initialDelay.nanoseconds * 2 ^ (attempt - 1)) policy.maxDelay.nanoseconds⟩

/-- All doublings before an attempt are counted, or those that are not make no difference. -/
def DoublesUpTo (policy : RetryPolicy) (attempt : Nat) : Prop :=
  attempt ≤ factorBits ∨ policy.initialDelay.nanoseconds = 0 ∨
    policy.maxDelay.nanoseconds ≤ policy.initialDelay.nanoseconds * greatestFactor

section Delays

variable {policy : RetryPolicy} {attempt later : Nat} {delay laterDelay : Duration}

theorem power_within {doublings : Nat} (few : doublings < factorBits) :
    2 ^ doublings ≤ greatestFactor :=
  Nat.le_sub_one_of_lt (Nat.pow_lt_pow_right (by decide) few)

theorem power_beyond {doublings : Nat} (many : factorBits ≤ doublings) :
    greatestFactor < 2 ^ doublings :=
  Nat.lt_of_lt_of_le (by decide) (Nat.pow_le_pow_right (by decide) many)

theorem delay_factor_eq (doublings : Nat) :
    delayFactor doublings = min (2 ^ doublings) greatestFactor := by
  by_cases few : doublings < factorBits
  · rw [delayFactor, if_pos few, Nat.min_eq_left (power_within few)]
    rfl
  · rw [delayFactor, if_neg few,
      Nat.min_eq_right (Nat.le_of_lt (power_beyond (Nat.le_of_not_lt few)))]
    rfl

theorem delay_after_none_iff :
    policy.delayAfter attempt = none ↔ attempt = 0 ∨ policy.maxAttempts ≤ attempt := by
  simp only [delayAfter, ite_eq_left_iff, reduceCtorEq, imp_false, Decidable.not_not,
    Bool.or_eq_true, decide_eq_true_eq, ge_iff_le]

theorem delay_after_some_iff :
    policy.delayAfter attempt = some delay ↔
      (1 ≤ attempt ∧ attempt < policy.maxAttempts) ∧
        (policy.initialDelay.times (delayFactor (attempt - 1))).atMost policy.maxDelay = delay := by
  by_cases last : attempt = 0 ∨ policy.maxAttempts ≤ attempt
  · have outside : ¬(1 ≤ attempt ∧ attempt < policy.maxAttempts) := by omega
    simp [delay_after_none_iff.mpr last, outside]
  · have inside : 1 ≤ attempt ∧ attempt < policy.maxAttempts := by omega
    have goesOn : ¬(decide (attempt = 0) || decide (attempt ≥ policy.maxAttempts)) = true := by
      simpa only [Bool.or_eq_true, decide_eq_true_eq] using last
    rw [delayAfter, if_neg goesOn, Option.some_inj]
    exact (and_iff_right inside).symm

theorem delay_after_some (started : 1 ≤ attempt) (before : attempt < policy.maxAttempts) :
    ∃ delay, policy.delayAfter attempt = some delay :=
  ⟨_, delay_after_some_iff.mpr ⟨⟨started, before⟩, rfl⟩⟩

/-- A product that is cut off at the greatest duration is longer than the longest delay anyway. -/
theorem delay_after_eq
    (expressible : policy.maxDelay.nanoseconds ≤ Duration.greatest.nanoseconds)
    (started : 1 ≤ attempt) (before : attempt < policy.maxAttempts) :
    policy.delayAfter attempt = some
      ⟨min (policy.initialDelay.nanoseconds * min (2 ^ (attempt - 1)) greatestFactor)
        policy.maxDelay.nanoseconds⟩ := by
  refine delay_after_some_iff.mpr ⟨⟨started, before⟩, ?_⟩
  rw [Duration.times, Duration.atMost, delay_factor_eq, Nat.min_assoc,
    Nat.min_eq_right expressible]

theorem delay_le_longest (found : policy.delayAfter attempt = some delay) :
    delay.nanoseconds ≤ policy.maxDelay.nanoseconds := by
  obtain ⟨_, rfl⟩ := delay_after_some_iff.mp found
  exact Nat.min_le_right ..

theorem delay_le_later (found : policy.delayAfter attempt = some delay) (order : attempt ≤ later)
    (foundLater : policy.delayAfter later = some laterDelay) :
    delay.nanoseconds ≤ laterDelay.nanoseconds := by
  obtain ⟨_, rfl⟩ := delay_after_some_iff.mp found
  obtain ⟨_, rfl⟩ := delay_after_some_iff.mp foundLater
  have powers : 2 ^ (attempt - 1) ≤ 2 ^ (later - 1) :=
    Nat.pow_le_pow_right (by decide) (Nat.sub_le_sub_right order 1)
  have factors : delayFactor (attempt - 1) ≤ delayFactor (later - 1) := by
    rw [delay_factor_eq, delay_factor_eq]
    omega
  have products := Nat.mul_le_mul_left policy.initialDelay.nanoseconds factors
  simp only [Duration.times, Duration.atMost]
  omega

/-- There is a delay after every attempt but the last one. It is the doubled one, up to the longest,
if and only if the doublings are counted or make no difference; else it stays where they stop being
counted. -/
theorem delay_doubled_iff
    (expressible : policy.maxDelay.nanoseconds ≤ Duration.greatest.nanoseconds) :
    (policy.delayAfter attempt = none ↔ attempt = 0 ∨ policy.maxAttempts ≤ attempt) ∧
      (1 ≤ attempt → attempt < policy.maxAttempts →
        (policy.delayAfter attempt = some (policy.doubledDelay attempt) ↔
          policy.DoublesUpTo attempt) ∧
        (¬policy.DoublesUpTo attempt → policy.delayAfter attempt =
          some ⟨policy.initialDelay.nanoseconds * greatestFactor⟩)) := by
  refine ⟨delay_after_none_iff, fun started before => ?_⟩
  rw [delay_after_eq expressible started before, doubledDelay]
  simp only [Option.some_inj, Duration.mk.injEq]
  by_cases few : attempt ≤ factorBits
  · have counted : 2 ^ (attempt - 1) ≤ greatestFactor := power_within (by omega)
    have doubles : policy.DoublesUpTo attempt := .inl few
    rw [Nat.min_eq_left counted]
    exact ⟨iff_of_true rfl doubles, fun stays => absurd doubles stays⟩
  · have uncounted : greatestFactor < 2 ^ (attempt - 1) := power_beyond (by omega)
    rw [Nat.min_eq_right (Nat.le_of_lt uncounted), DoublesUpTo]
    generalize policy.maxDelay.nanoseconds = longest
    by_cases idle : policy.initialDelay.nanoseconds = 0
    · simp [idle]
    · have shorter := Nat.mul_lt_mul_of_pos_left uncounted (Nat.pos_of_ne_zero idle)
      generalize policy.initialDelay.nanoseconds * greatestFactor = counted at shorter ⊢
      omega

end Delays

def slowPolicy : RetryPolicy where
  maxAttempts := 40
  initialDelay := ⟨1⟩
  maxDelay := .ofMilliseconds 10000

def fastPolicy : RetryPolicy := { slowPolicy with initialDelay := ⟨3⟩ }

theorem delay_doubled_iff_fast :
    fastPolicy.maxDelay.nanoseconds ≤ Duration.greatest.nanoseconds ∧ 34 < fastPolicy.maxAttempts ∧
      fastPolicy.delayAfter 34 = some (fastPolicy.doubledDelay 34) :=
  have expressible : fastPolicy.maxDelay.nanoseconds ≤ Duration.greatest.nanoseconds := by decide
  have before : 34 < fastPolicy.maxAttempts := by decide
  have doubles : fastPolicy.DoublesUpTo 34 := .inr (.inr (by decide))
  ⟨expressible, before, ((delay_doubled_iff expressible).2 (by decide) before).1.mpr doubles⟩

/-- After 34 attempts the delay is about half of the doubled one, and still below the limit. -/
theorem delay_stays_short :
    34 < slowPolicy.maxAttempts ∧ slowPolicy.delayAfter 34 = some ⟨4294967295⟩ ∧
      slowPolicy.doubledDelay 34 = ⟨8589934592⟩ ∧
      slowPolicy.delayAfter 34 ≠ some (slowPolicy.doubledDelay 34) := by
  decide +kernel

end CollectionTypes.RetryPolicy
