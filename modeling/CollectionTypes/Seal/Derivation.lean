import CollectionTypes.Seal.Digest

/-!
Keys from passphrases by the function scrypt, with blocks of 8, no parallelism and a cost that is a
power of two.
-/

namespace CollectionTypes.Seal.Derivation

/-- Blocks of keyed hashes of the salt with a counter, `length` bytes in all. -/
def stretch (passphrase salt : Bytes) (length : Nat) : Bytes :=
  ((List.range ((length + 31) / 32)).flatMap fun index =>
    Digest.keyedHash passphrase (salt ++ bigEndian 4 (index + 1))).take length

abbrev Block := Vector UInt32 16

def rotateLeft (word amount : UInt32) : UInt32 := (word <<< amount) ||| (word >>> (32 - amount))

def mixWord (block : Block) (target left right : Fin 16) (amount : UInt32) : Block :=
  block.set target (block[target] ^^^ rotateLeft (block[left] + block[right]) amount)

def quarterRound (block : Block) (a b c d : Fin 16) : Block :=
  let block := mixWord block b a d 7
  let block := mixWord block c b a 9
  let block := mixWord block d c b 13
  mixWord block a d c 18

def doubleRound (block : Block) : Block :=
  let block := quarterRound block 0 4 8 12
  let block := quarterRound block 5 9 13 1
  let block := quarterRound block 10 14 2 6
  let block := quarterRound block 15 3 7 11
  let block := quarterRound block 0 1 2 3
  let block := quarterRound block 5 6 7 4
  let block := quarterRound block 10 11 8 9
  quarterRound block 15 12 13 14

def addBlocks (left right : Block) : Block := left.zipWith (· + ·) right

def xorBlocks (left right : Block) : Block := left.zipWith (· ^^^ ·) right

/-- Four double rounds, added to the block they started from. -/
def scramble (block : Block) : Block :=
  addBlocks (doubleRound (doubleRound (doubleRound (doubleRound block)))) block

def zeroBlock : Block := Vector.replicate 16 0

/-- How many blocks are mixed at once. -/
def width : Nat := 16

abbrev Row := Array Block

def xorRows (left right : Row) : Row := Array.zipWith xorBlocks left right

/-- Each block is mixed into the one before; the even ones come first in the result. -/
def mixRow (row : Row) : Row :=
  let (_, mixed) := row.foldl
    (fun (last, mixed) block =>
      let next := scramble (xorBlocks last block)
      (next, mixed.push next))
    (row.getD (width - 1) zeroBlock, (#[] : Row))
  let pick (offset : Nat) : Row :=
    (Array.range (width / 2)).map fun index => mixed.getD (2 * index + offset) zeroBlock
  pick 0 ++ pick 1

/-- The number that chooses the row to mix in next. -/
def rowNumber (row : Row) : Nat :=
  let last := row.getD (width - 1) zeroBlock
  last[0].toNat + last[1].toNat * Nat.pow 2 32

/-- Fills `count` rows, then mixes in as many of them in an order that depends on all. -/
def mixMemory (count : Nat) (row : Row) : Row :=
  let (row, rows) := (List.range count).foldl
    (fun (row, rows) _ => (mixRow row, rows.push row)) (row, (#[] : Array Row))
  (List.range count).foldl
    (fun row _ => mixRow (xorRows row (rows.getD (rowNumber row % count) #[]))) row

def blockOfBytes (bytes : Bytes) : Block :=
  let words := ((chunks 4 bytes).map fun word => UInt32.ofNat (ofLittleEndian word)).toArray
  Vector.ofFn fun index => words.getD index.val 0

def bytesOfBlock (block : Block) : Bytes :=
  block.toList.flatMap fun word => littleEndian 4 word.toNat

def keySize : Nat := 32

def rowSize : Nat := 64 * width

/-- From this cost on the rows do not fit into an address space of 64 bits. -/
def costLimit : Nat := 54

/-- The cost is the binary logarithm of the number of rows. -/
def deriveKey (passphrase salt : Bytes) (cost : Nat) : Bytes :=
  let row := ((chunks 64 (stretch passphrase salt rowSize)).map blockOfBytes).toArray
  let mixed := mixMemory (Nat.pow 2 cost) row
  stretch passphrase (mixed.toList.flatMap bytesOfBlock) keySize

end CollectionTypes.Seal.Derivation
