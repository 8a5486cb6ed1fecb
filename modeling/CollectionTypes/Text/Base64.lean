/-!
Bytes as letters, digits, hyphens and underscores, six bits each, filled up with equals signs to a
multiple of four. Only one text stands for given bytes: the bits that are left over have to be zero.
-/

namespace CollectionTypes.Text.Base64

def letterOf (value : Nat) : Char :=
  if value < 26 then Char.ofNat ('A'.toNat + value)
  else if value < 52 then Char.ofNat ('a'.toNat + (value - 26))
  else if value < 62 then Char.ofNat ('0'.toNat + (value - 52))
  else if value = 62 then '-'
  else '_'

def valueOf (letter : Char) : Option Nat :=
  if 'A' ≤ letter && letter ≤ 'Z' then some (letter.toNat - 'A'.toNat)
  else if 'a' ≤ letter && letter ≤ 'z' then some (letter.toNat - 'a'.toNat + 26)
  else if '0' ≤ letter && letter ≤ '9' then some (letter.toNat - '0'.toNat + 52)
  else if letter = '-' then some 62
  else if letter = '_' then some 63
  else none

def encode : List UInt8 → List Char
  | a :: b :: c :: rest =>
      letterOf (a.toNat / 4) :: letterOf (a.toNat % 4 * 16 + b.toNat / 16) ::
        letterOf (b.toNat % 16 * 4 + c.toNat / 64) :: letterOf (c.toNat % 64) :: encode rest
  | [a, b] =>
      [letterOf (a.toNat / 4), letterOf (a.toNat % 4 * 16 + b.toNat / 16),
        letterOf (b.toNat % 16 * 4), '=']
  | [a] => [letterOf (a.toNat / 4), letterOf (a.toNat % 4 * 16), '=', '=']
  | [] => []

def decode : List Char → Option (List UInt8)
  | [] => some []
  | [a, b, '=', '='] => do
      let a ← valueOf a
      let b ← valueOf b
      if b % 16 = 0 then some [UInt8.ofNat (a * 4 + b / 16)] else none
  | [a, b, c, '='] => do
      let a ← valueOf a
      let b ← valueOf b
      let c ← valueOf c
      if c % 4 = 0 then
        some [UInt8.ofNat (a * 4 + b / 16), UInt8.ofNat (b % 16 * 16 + c / 4)]
      else none
  | a :: b :: c :: d :: rest => do
      let a ← valueOf a
      let b ← valueOf b
      let c ← valueOf c
      let d ← valueOf d
      let bytes ← decode rest
      some (UInt8.ofNat (a * 4 + b / 16) :: UInt8.ofNat (b % 16 * 16 + c / 4) ::
        UInt8.ofNat (c % 4 * 64 + d) :: bytes)
  | _ => none

end CollectionTypes.Text.Base64
