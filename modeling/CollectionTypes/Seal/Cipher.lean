import CollectionTypes.Seal.Bytes

/-!
The block cipher AES with keys of 32 bytes, in the direction of encryption. A block is 16 bytes in
four columns.
-/

namespace CollectionTypes.Seal.Cipher

/-- Multiplication by `x` in the field of 256 elements. -/
def double (byte : UInt8) : UInt8 :=
  (byte <<< 1) ^^^ (if byte &&& 0x80 = 0 then 0 else 0x1b)

/-- The product of two field elements, by the lowest `bits` bits of the second. -/
def multiply (left right : UInt8) : Nat → UInt8
  | 0 => 0
  | bits + 1 =>
      (if right &&& 1 = 0 then 0 else left) ^^^ multiply (double left) (right >>> 1) bits

def times (left right : UInt8) : UInt8 := multiply left right 8

/-- The inverse of a field element, zero for zero: its power of 254. -/
def inverse (byte : UInt8) : UInt8 :=
  (List.range 7).foldl
    (fun (power : UInt8 × UInt8) _ =>
      let square := times power.1 power.1
      (square, times power.2 square))
    (byte, 1) |>.2

def rotateByte (byte : UInt8) (amount : UInt8) : UInt8 :=
  (byte <<< amount) ||| (byte >>> (8 - amount))

def substitute (byte : UInt8) : UInt8 :=
  let root := inverse byte
  root ^^^ rotateByte root 1 ^^^ rotateByte root 2 ^^^ rotateByte root 3 ^^^ rotateByte root 4 ^^^
    0x63

def substitutionTable : Array UInt8 :=
  (Array.range 256).map fun value => substitute (UInt8.ofNat value)

def substituteAll (bytes : Bytes) : Bytes :=
  bytes.map fun byte => substitutionTable.getD byte.toNat 0

/-- Row `r` of the block moves `r` columns to the left. -/
def shiftRows (block : Bytes) : Bytes :=
  (List.range 16).map fun index => block.getD ((index + 4 * (index % 4)) % 16) 0

def mixColumn (column : Bytes) : Bytes :=
  match column with
  | [a, b, c, d] =>
      let mix (w x y z : UInt8) : UInt8 := double w ^^^ (double x ^^^ x) ^^^ y ^^^ z
      [mix a b c d, mix b c d a, mix c d a b, mix d a b c]
  | other => other

def mixColumns (block : Bytes) : Bytes := (chunks 4 block).flatMap mixColumn

/-- The word of the key schedule at `index`, from the one before it and the one eight before. -/
def nextWord (index : Nat) (constant : UInt8) (previous eighth : Bytes) : Bytes :=
  let changed :=
    if index % 8 = 0 then
      xorBytes (substituteAll (previous.drop 1 ++ previous.take 1)) [constant, 0, 0, 0]
    else if index % 8 = 4 then substituteAll previous
    else previous
  xorBytes changed eighth

def wordCount : Nat := 60

def expandKey (key : Bytes) : Array Bytes :=
  let extend (state : Array Bytes × UInt8) (index : Nat) : Array Bytes × UInt8 :=
    let (words, constant) := state
    let word := nextWord index constant (words.getD (index - 1) []) (words.getD (index - 8) [])
    (words.push word, if index % 8 = 0 then double constant else constant)
  ((List.range' 8 (wordCount - 8)).foldl extend ((chunks 4 key).toArray, 1)).1

/-- One key for each round, and one before the first. -/
def roundKeys (key : Bytes) : List Bytes :=
  (chunks 4 (expandKey key).toList).map (·.flatten)

def encryptRounds (block : Bytes) : List Bytes → Bytes
  | [] => block
  | [last] => xorBytes (shiftRows (substituteAll block)) last
  | key :: keys =>
      encryptRounds (xorBytes (mixColumns (shiftRows (substituteAll block))) key) keys

def encryptBlock (keys : List Bytes) (block : Bytes) : Bytes :=
  match keys with
  | [] => block
  | first :: rest => encryptRounds (xorBytes block first) rest

end CollectionTypes.Seal.Cipher
