import CollectionTypes.Text.Basic
import CollectionTypes.Text.Digits

/-!
Spans of time in nanoseconds, up to a greatest one that no product exceeds.
-/

namespace CollectionTypes

structure Duration where
  nanoseconds : Nat
deriving DecidableEq, Repr, Inhabited

namespace Duration

def perSecond : Nat := 1000000000

def greatest : Duration := ⟨Nat.pow 2 64 * perSecond - 1⟩

def ofParts (seconds nanoseconds : Nat) : Duration := ⟨seconds * perSecond + nanoseconds⟩

def ofMilliseconds (count : Nat) : Duration := ⟨count * 1000000⟩

def seconds (duration : Duration) : Nat := duration.nanoseconds / perSecond

def restNanoseconds (duration : Duration) : Nat := duration.nanoseconds % perSecond

def times (duration : Duration) (factor : Nat) : Duration :=
  ⟨min (duration.nanoseconds * factor) greatest.nanoseconds⟩

def atMost (duration limit : Duration) : Duration :=
  ⟨min duration.nanoseconds limit.nanoseconds⟩

/-- The digits of `value` in as many places as the unit has, without trailing zeros. -/
def fraction (value : Nat) (places : Nat) : List Char :=
  let digits := Text.Decimal.digits value
  let padded := List.replicate (places - digits.length) '0' ++ digits
  Text.dropEnd (· = '0') padded

/-- `nanoseconds` in a unit of `10 ^ places` of them. -/
def inUnit (nanoseconds places : Nat) (unit : String) : String :=
  let whole := Text.Decimal.write (nanoseconds / Nat.pow 10 places)
  let rest := nanoseconds % Nat.pow 10 places
  if rest = 0 then whole ++ unit
  else whole ++ "." ++ String.ofList (fraction rest places) ++ unit

/-- The largest unit in which the duration is at least one. -/
def describe (duration : Duration) : String :=
  let nanoseconds := duration.nanoseconds
  if nanoseconds ≥ Nat.pow 10 9 then inUnit nanoseconds 9 "s"
  else if nanoseconds ≥ Nat.pow 10 6 then inUnit nanoseconds 6 "ms"
  else if nanoseconds ≥ Nat.pow 10 3 then inUnit nanoseconds 3 "µs"
  else inUnit nanoseconds 0 "ns"

end Duration

end CollectionTypes
