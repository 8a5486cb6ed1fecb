import CollectionTypes.Number.Double
import CollectionTypes.Text.Digits

/-!
The fewest decimal digits that still name one double among all, and the way they are laid out:
positional for moderate exponents, always with a decimal point, and with a signed exponent beyond.
-/

namespace CollectionTypes.Number

/-- `digits * 10 ^ power`. -/
structure DecimalForm where
  digits : Nat
  power : Int
deriving DecidableEq, Repr

/-- The bounds of the reals that round to a magnitude, in quarters of its last place. -/
def Magnitude.reach (value : Magnitude) : Nat × Nat :=
  let below :=
    if value.mantissa = Nat.pow 2 52 && value.exponent > Magnitude.leastExponent then 1 else 2
  (4 * value.mantissa - below, 4 * value.mantissa + 2)

/-- Whether `digits * 10 ^ power` rounds to `value`; the ends belong to even mantissas. -/
def Magnitude.holds (value : Magnitude) (form : DecimalForm) : Bool :=
  let (low, high) := value.reach
  let quarterExponent := value.exponent - 2
  let scaleTen :=
    if form.power ≥ 0 then (Nat.pow 10 form.power.toNat, 1)
    else (1, Nat.pow 10 (-form.power).toNat)
  let scaleTwo :=
    if quarterExponent ≥ 0 then (Nat.pow 2 quarterExponent.toNat, 1)
    else (1, Nat.pow 2 (-quarterExponent).toNat)
  let point := form.digits * scaleTen.1 * scaleTwo.2
  let lowPoint := low * scaleTwo.1 * scaleTen.2
  let highPoint := high * scaleTwo.1 * scaleTen.2
  if value.mantissa % 2 = 0 then lowPoint ≤ point && point ≤ highPoint
  else lowPoint < point && point < highPoint

/-- The greatest multiple of `10 ^ power` that is not above the value. -/
def Magnitude.floorAt (value : Magnitude) (power : Int) : Nat :=
  let (top, bottom) := value.toRatio
  if power ≥ 0 then top / (bottom * Nat.pow 10 power.toNat)
  else top * Nat.pow 10 (-power).toNat / bottom

/-- Whether the value lies nearer to the lower of two neighbours on the grid; a tie goes to the
even one. -/
def Magnitude.nearerBelow (value : Magnitude) (power : Int) (lower : Nat) : Bool :=
  let (top, bottom) := value.toRatio
  let (twice, middle) :=
    if power ≥ 0 then (2 * top, (2 * lower + 1) * bottom * Nat.pow 10 power.toNat)
    else (2 * top * Nat.pow 10 (-power).toNat, (2 * lower + 1) * bottom)
  twice < middle || (twice == middle && lower % 2 == 0)

/-- The nearest point on the grid of `10 ^ power` that rounds to the value. -/
def Magnitude.onGrid (value : Magnitude) (power : Int) : Option DecimalForm :=
  let lower := value.floorAt power
  let below : DecimalForm := ⟨lower, power⟩
  let above : DecimalForm := ⟨lower + 1, power⟩
  match value.holds below, value.holds above with
  | true, true => some (if value.nearerBelow power lower then below else above)
  | true, false => some below
  | false, true => some above
  | false, false => none

/-- The greatest power of ten that is not above a nonzero value. -/
def Magnitude.decimalExponent (value : Magnitude) : Int :=
  let (top, bottom) := value.toRatio
  if top ≥ bottom then ((Text.Decimal.digits (top / bottom)).length : Int) - 1
  else
    -- 10 ^ k reaches the reciprocal first at the wanted exponent.
    let reciprocal := (bottom + top - 1) / top
    Int.negOfNat (Text.Decimal.digits (reciprocal - 1)).length

/-- Coarser grids first: the first that has a point for the value wins. -/
def Magnitude.firstOnGrid (value : Magnitude) : List Int → DecimalForm
  | [] => ⟨value.mantissa, value.exponent⟩
  | power :: finer => (value.onGrid power).getD (value.firstOnGrid finer)

def Magnitude.shortest (value : Magnitude) : DecimalForm :=
  if value.isZero then ⟨0, 0⟩
  else
    let top := value.decimalExponent + 1
    value.firstOnGrid ((List.range 18).map fun (count : Nat) => top - (count : Int))

/-- Digits without trailing zeros, the zeros moved into the power. -/
def DecimalForm.strip (form : DecimalForm) : Nat → DecimalForm
  | 0 => form
  | steps + 1 =>
      if form.digits ≠ 0 && form.digits % 10 = 0 then
        DecimalForm.strip ⟨form.digits / 10, form.power + 1⟩ steps
      else form

/-- Exponents of the first digit that are written by position. -/
def positionalFrom : Int := -5

def positionalTo : Int := 15

def DecimalForm.write (form : DecimalForm) : List Char :=
  if form.digits = 0 then ['0', '.', '0']
  else
    let digits := Text.Decimal.digits form.digits
    let exponent := form.power + digits.length - 1
    if positionalFrom ≤ exponent && exponent ≤ positionalTo then
      if exponent < 0 then
        ['0', '.'] ++ List.replicate (-exponent - 1).toNat '0' ++ digits
      else
        let wholeCount := exponent.toNat + 1
        let padded := digits ++ List.replicate (wholeCount - digits.length) '0'
        let fraction := padded.drop wholeCount
        padded.take wholeCount ++ '.' :: (if fraction.isEmpty then ['0'] else fraction)
    else
      let mark := if exponent < 0 then ['e', '-'] else ['e', '+']
      let lead := match digits with
        | [] => []
        | [only] => [only]
        | first :: others => first :: '.' :: others
      lead ++ mark ++ Text.Decimal.digits exponent.natAbs

def Double.write (value : Double) : List Char :=
  let text := (value.magnitude.shortest.strip 20).write
  if value.negative then '-' :: text else text

end CollectionTypes.Number
