/-!
Finite double precision numbers as exact values: a sign, and a magnitude `mantissa * 2 ^ exponent`.
Every operation rounds the exact result once, to nearest and ties to even; a result beyond the
largest double is `none`.
-/

namespace CollectionTypes.Number

/-- A nonnegative double. Canonical form: the mantissa is below 2^53, and it is at least 2^52
unless the exponent is the smallest one. -/
structure Magnitude where
  mantissa : Nat
  exponent : Int
deriving DecidableEq, Repr, Inhabited

structure Double where
  negative : Bool
  magnitude : Magnitude
deriving DecidableEq, Repr, Inhabited

namespace Magnitude

def leastExponent : Int := -1074

def greatestExponent : Int := 971

def zero : Magnitude := ⟨0, leastExponent⟩

def isZero (value : Magnitude) : Bool := value.mantissa == 0

/-- The quotient rounded to the nearest integer, and to the even one if two are nearest. -/
def roundQuotient (numerator denominator : Nat) : Nat :=
  let whole := numerator / denominator
  let twiceRest := 2 * (numerator % denominator)
  if twiceRest > denominator || (twiceRest == denominator && whole % 2 == 1) then whole + 1
  else whole

/-- `numerator / (denominator * 2 ^ exponent)` as a pair of natural numbers. -/
def scaled (numerator denominator : Nat) (exponent : Int) : Nat × Nat :=
  if exponent ≥ 0 then (numerator, denominator * Nat.pow 2 exponent.toNat)
  else (numerator * Nat.pow 2 (-exponent).toNat, denominator)

/-- The exponent at which the quotient has 53 binary digits, no lower than the least one. -/
def exponentFor (numerator denominator : Nat) : Int :=
  let guess := (numerator.log2 : Int) - denominator.log2 - 53
  let (top, bottom) := scaled numerator denominator guess
  let exponent := if top / bottom ≥ Nat.pow 2 53 then guess + 1 else guess
  max exponent leastExponent

def ofRatio (numerator denominator : Nat) : Option Magnitude :=
  if numerator = 0 then some zero
  else
    let exponent := exponentFor numerator denominator
    let (top, bottom) := scaled numerator denominator exponent
    let mantissa := roundQuotient top bottom
    let rounded : Magnitude :=
      if mantissa = Nat.pow 2 53 then ⟨Nat.pow 2 52, exponent + 1⟩ else ⟨mantissa, exponent⟩
    if rounded.exponent > greatestExponent then none else some rounded

/-- `value` as a fraction of natural numbers. -/
def toRatio (value : Magnitude) : Nat × Nat :=
  if value.exponent ≥ 0 then (value.mantissa * Nat.pow 2 value.exponent.toNat, 1)
  else (value.mantissa, Nat.pow 2 (-value.exponent).toNat)

def mul (left right : Magnitude) : Option Magnitude :=
  let (a, b) := left.toRatio
  let (c, d) := right.toRatio
  ofRatio (a * c) (b * d)

def div (left right : Magnitude) : Option Magnitude :=
  let (a, b) := left.toRatio
  let (c, d) := right.toRatio
  ofRatio (a * d) (b * c)

/-- The double nearest to a power of ten; `none` above 10^308. -/
def powerOfTen (power : Nat) : Option Magnitude := ofRatio (Nat.pow 10 power) 1

end Magnitude

end CollectionTypes.Number
