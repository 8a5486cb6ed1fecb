import CollectionTypes.Json.Value
import CollectionTypes.Text.Digits

/-!
Numbers as they are written: a sign, whole digits, a fraction, an exponent. A number without
fraction and exponent that fits into 64 bits is an integer; any other is a double, found from the
leading digits that fit into 64 bits and one power of ten, each step rounded.
-/

namespace CollectionTypes.Json

open Text.Decimal (isDigit digitValue)
open CollectionTypes.Number (Magnitude)

structure NumberText where
  negative : Bool
  whole : List Char
  fraction : Option (List Char)
  exponent : Option (Bool × List Char)
deriving DecidableEq, Repr

namespace NumberText

def digitBound : Nat := Nat.pow 2 64

/-- Takes digits as long as the value stays below the bound. -/
def takeDigits (value : Nat) : List Char → Nat × List Char
  | [] => (value, [])
  | letter :: rest =>
      let next := 10 * value + digitValue letter
      if next < digitBound then takeDigits next rest else (value, letter :: rest)

/-- The digits kept, and the power of ten that makes up for the others. -/
def significand (number : NumberText) : Nat × Int :=
  let (whole, dropped) := takeDigits 0 number.whole
  match number.fraction with
  | none => (whole, dropped.length)
  | some fraction =>
      let (value, beyond) := takeDigits whole fraction
      (value, (dropped.length : Int) - (fraction.length - beyond.length : Nat))

def power (number : NumberText) : Int :=
  match number.exponent with
  | none => 0
  | some (negative, digits) =>
      let size : Int := Text.Decimal.valueFrom 0 digits
      if negative then 0 - size else size

/-- `magnitude * 10 ^ power`, in steps of 308 while the power is too small for one division. -/
def scale (magnitude : Magnitude) (power : Int) : Nat → Option Magnitude
  | 0 => some magnitude
  | steps + 1 =>
      if magnitude.isZero then some magnitude
      else if power.natAbs ≤ 308 then do
        let factor ← Magnitude.powerOfTen power.natAbs
        if power ≥ 0 then magnitude.mul factor else magnitude.div factor
      else if power ≥ 0 then none
      else do
        let factor ← Magnitude.powerOfTen 308
        scale (← magnitude.div factor) (power + 308) steps

/-- A number of 64 bits is below the smallest double after three divisions by 10^308. -/
def scaleSteps : Nat := 4

def double? (number : NumberText) : Option Number.Double := do
  let (digits, shift) := number.significand
  let magnitude ← scale (← Magnitude.ofRatio digits 1) (shift + number.power) scaleSteps
  return ⟨number.negative, magnitude⟩

def integer? (number : NumberText) : Option Int :=
  if number.fraction.isSome || number.exponent.isSome then none
  else
    let size := Text.Decimal.valueFrom 0 number.whole
    if number.negative then
      if 0 < size && size ≤ Nat.pow 2 63 then some (Int.negOfNat size) else none
    else if size < digitBound then some size else none

/-- `none` for a number beyond the largest double. -/
def value? (number : NumberText) : Option Number :=
  match number.integer? with
  | some value => some (.integer value)
  | none => number.double?.map .double

end NumberText

end CollectionTypes.Json
