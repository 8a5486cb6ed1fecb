/-!
Natural numbers in digits, without leading zeros where they are written. Decimal numbers are read
digit by digit; hexadecimal ones are written in small letters and read in capitals too.
-/

namespace CollectionTypes.Text.Decimal

def isDigit (letter : Char) : Bool := '0' ≤ letter && letter ≤ '9'

def digit (value : Nat) : Char := Char.ofNat ('0'.toNat + value % 10)

def digitValue (letter : Char) : Nat := letter.toNat - '0'.toNat

def digits (value : Nat) : List Char :=
  if value < 10 then [digit value] else digits (value / 10) ++ [digit (value % 10)]
termination_by value
decreasing_by omega

def write (value : Nat) : String := String.ofList (digits value)

/-- The value of digits that follow those already read. -/
def valueFrom (read : Nat) (letters : List Char) : Nat :=
  letters.foldl (fun value letter => 10 * value + digitValue letter) read

/-- Refuses the empty text and any letter that is no digit; leading zeros are fine. -/
def parse (letters : List Char) : Option Nat :=
  if letters ≠ [] && letters.all isDigit then some (valueFrom 0 letters) else none

/-- As `parse`, after at most one plus sign. -/
def parseSigned (letters : List Char) : Option Nat :=
  match letters with
  | '+' :: rest => parse rest
  | _ => parse letters

end CollectionTypes.Text.Decimal

namespace CollectionTypes.Text.Hexadecimal

def digit (value : Nat) : Char :=
  if value < 10 then Char.ofNat ('0'.toNat + value) else Char.ofNat ('a'.toNat + (value - 10))

def digits (value : Nat) : List Char :=
  if value < 16 then [digit value] else digits (value / 16) ++ [digit (value % 16)]
termination_by value
decreasing_by omega

def digitValue? (letter : Char) : Option Nat :=
  if Decimal.isDigit letter then some (Decimal.digitValue letter)
  else if 'a' ≤ letter && letter ≤ 'f' then some (letter.toNat - 'a'.toNat + 10)
  else if 'A' ≤ letter && letter ≤ 'F' then some (letter.toNat - 'A'.toNat + 10)
  else none

/-- The number that digits stand for; no digits are zero. -/
def value? (letters : List Char) : Option Nat := do
  let values ← letters.mapM digitValue?
  return values.foldl (fun value next => 16 * value + next) 0

end CollectionTypes.Text.Hexadecimal
