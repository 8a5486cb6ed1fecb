import CollectionTypes.Seal.Bytes

/-!
The hash function SHA-256, and the keyed hash that is made of it.
-/

namespace CollectionTypes.Seal.Digest

def roundConstants : List UInt32 := [
    0x428a2f98, 0x71374491, 0xb5c0fbcf, 0xe9b5dba5, 0x3956c25b, 0x59f111f1, 0x923f82a4, 0xab1c5ed5,
    0xd807aa98, 0x12835b01, 0x243185be, 0x550c7dc3, 0x72be5d74, 0x80deb1fe, 0x9bdc06a7, 0xc19bf174,
    0xe49b69c1, 0xefbe4786, 0x0fc19dc6, 0x240ca1cc, 0x2de92c6f, 0x4a7484aa, 0x5cb0a9dc, 0x76f988da,
    0x983e5152, 0xa831c66d, 0xb00327c8, 0xbf597fc7, 0xc6e00bf3, 0xd5a79147, 0x06ca6351, 0x14292967,
    0x27b70a85, 0x2e1b2138, 0x4d2c6dfc, 0x53380d13, 0x650a7354, 0x766a0abb, 0x81c2c92e, 0x92722c85,
    0xa2bfe8a1, 0xa81a664b, 0xc24b8b70, 0xc76c51a3, 0xd192e819, 0xd6990624, 0xf40e3585, 0x106aa070,
    0x19a4c116, 0x1e376c08, 0x2748774c, 0x34b0bcb5, 0x391c0cb3, 0x4ed8aa4a, 0x5b9cca4f, 0x682e6ff3,
    0x748f82ee, 0x78a5636f, 0x84c87814, 0x8cc70208, 0x90befffa, 0xa4506ceb, 0xbef9a3f7, 0xc67178f2
  ]

structure Working where
  a : UInt32
  b : UInt32
  c : UInt32
  d : UInt32
  e : UInt32
  f : UInt32
  g : UInt32
  h : UInt32
deriving DecidableEq, Repr

def initial : Working :=
  ⟨0x6a09e667, 0xbb67ae85, 0x3c6ef372, 0xa54ff53a, 0x510e527f, 0x9b05688c, 0x1f83d9ab, 0x5be0cd19⟩

def rotateRight (word amount : UInt32) : UInt32 := (word >>> amount) ||| (word <<< (32 - amount))

def smallSigma0 (word : UInt32) : UInt32 :=
  rotateRight word 7 ^^^ rotateRight word 18 ^^^ (word >>> 3)

def smallSigma1 (word : UInt32) : UInt32 :=
  rotateRight word 17 ^^^ rotateRight word 19 ^^^ (word >>> 10)

def bigSigma0 (word : UInt32) : UInt32 :=
  rotateRight word 2 ^^^ rotateRight word 13 ^^^ rotateRight word 22

def bigSigma1 (word : UInt32) : UInt32 :=
  rotateRight word 6 ^^^ rotateRight word 11 ^^^ rotateRight word 25

/-- The words of one block, extended to one for each round. -/
def schedule (words : Array UInt32) : Array UInt32 :=
  (List.range 48).foldl
    (fun words index =>
      words.push (smallSigma1 (words.getD (index + 14) 0) + words.getD (index + 9) 0 +
        smallSigma0 (words.getD (index + 1) 0) + words.getD index 0))
    words

def round (w : Working) (input : UInt32) : Working :=
  let choice := (w.e &&& w.f) ^^^ ((w.e ^^^ 0xffffffff) &&& w.g)
  let majority := (w.a &&& w.b) ^^^ (w.a &&& w.c) ^^^ (w.b &&& w.c)
  let first := w.h + bigSigma1 w.e + choice + input
  let second := bigSigma0 w.a + majority
  ⟨first + second, w.a, w.b, w.c, w.d + first, w.e, w.f, w.g⟩

def add (left right : Working) : Working :=
  ⟨left.a + right.a, left.b + right.b, left.c + right.c, left.d + right.d,
    left.e + right.e, left.f + right.f, left.g + right.g, left.h + right.h⟩

def blockSize : Nat := 64

def compress (state : Working) (block : Bytes) : Working :=
  let words := ((chunks 4 block).map fun bytes => UInt32.ofNat (ofBigEndian bytes)).toArray
  let inputs := List.zipWith (· + ·) roundConstants (schedule words).toList
  add state (inputs.foldl round state)

/-- A one bit, zeros up to the last eight bytes of a block, and the length in bits. -/
def padding (length : Nat) : Bytes :=
  0x80 :: List.replicate ((119 - length % blockSize) % blockSize) 0 ++ bigEndian 8 (8 * length)

def toBytes (w : Working) : Bytes :=
  [w.a, w.b, w.c, w.d, w.e, w.f, w.g, w.h].flatMap fun word => bigEndian 4 word.toNat

def hash (message : Bytes) : Bytes :=
  toBytes ((chunks blockSize (message ++ padding message.length)).foldl compress initial)

/-- A key of the size of one block. -/
def blockKey (key : Bytes) : Bytes :=
  let short := if key.length > blockSize then hash key else key
  short ++ List.replicate (blockSize - short.length) 0

def keyedHash (key message : Bytes) : Bytes :=
  let key := blockKey key
  let inner := hash (key.map (· ^^^ 0x36) ++ message)
  hash (key.map (· ^^^ 0x5c) ++ inner)

end CollectionTypes.Seal.Digest
