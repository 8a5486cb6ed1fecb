/-!
Byte strings: cutting into blocks, and numbers of several bytes in either order.
-/

namespace CollectionTypes.Seal

abbrev Bytes := List UInt8

/-- Blocks of the given size, the last one perhaps shorter. -/
def chunks {α : Type} (size : Nat) (items : List α) : List (List α) :=
  if _ : size = 0 ∨ items = [] then []
  else items.take size :: chunks size (items.drop size)
termination_by items.length
decreasing_by
  rename_i nonempty
  have := List.length_pos_iff.mpr (fun empty => nonempty (.inr empty))
  simp only [List.length_drop]
  omega

/-- The last `count` bytes of a number, the highest first. -/
def bigEndian : Nat → Nat → Bytes
  | 0, _ => []
  | count + 1, value => bigEndian count (value / 256) ++ [UInt8.ofNat (value % 256)]

def ofBigEndian (bytes : Bytes) : Nat :=
  bytes.foldl (fun value byte => value * 256 + byte.toNat) 0

/-- The last `count` bytes of a number, the lowest first. -/
def littleEndian : Nat → Nat → Bytes
  | 0, _ => []
  | count + 1, value => UInt8.ofNat (value % 256) :: littleEndian count (value / 256)

def ofLittleEndian (bytes : Bytes) : Nat :=
  bytes.foldr (fun byte value => value * 256 + byte.toNat) 0

def xorBytes (left right : Bytes) : Bytes := List.zipWith (· ^^^ ·) left right

def bytesOfText (text : String) : Bytes := text.toUTF8.data.toList

end CollectionTypes.Seal
