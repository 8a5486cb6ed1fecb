import CollectionTypes.Seal.Cipher

/-!
Authenticated encryption with AES in Galois and counter mode: nonces of 12 bytes, tags of 16 bytes,
no further data. What was changed after it was sealed does not open.
-/

namespace CollectionTypes.Seal.Authenticated

def nonceSize : Nat := 12

def tagSize : Nat := 16

def counterBlock (nonce : Bytes) (counter : Nat) : Bytes := nonce ++ bigEndian 4 counter

/-- Encrypted counters from `counter` on, one for each block of the message. -/
def keyStream (keys : List Bytes) (nonce : Bytes) (counter blocks : Nat) : Bytes :=
  (List.range blocks).flatMap fun index =>
    Cipher.encryptBlock keys (counterBlock nonce (counter + index))

/-- The stream is its own inverse. -/
def applyStream (keys : List Bytes) (nonce message : Bytes) : Bytes :=
  xorBytes message (keyStream keys nonce 2 ((message.length + 15) / 16))

/-- The reduction of the field of 2^128 elements, whose bits run from the highest. -/
def reduction : Nat := 0xe1 * Nat.pow 2 120

def halve (value : Nat) : Nat :=
  if value % 2 = 0 then value / 2 else (value / 2) ^^^ reduction

/-- The product of two field elements, by the highest `bits` bits of the first. -/
def multiply (left right : Nat) : Nat → Nat
  | 0 => 0
  | bits + 1 =>
      (if left.testBit bits then right else 0) ^^^ multiply left (halve right) bits

/-- A block, filled up with zeros, as a field element. -/
def element (block : Bytes) : Nat :=
  ofBigEndian (block ++ List.replicate (16 - block.length) 0)

def lengthBlock (message : Bytes) : Nat := 8 * message.length

def fingerprint (hashKey : Nat) (message : Bytes) : Nat :=
  ((chunks 16 message).map element ++ [lengthBlock message]).foldl
    (fun state block => multiply (state ^^^ block) hashKey 128) 0

def tag (keys : List Bytes) (nonce message : Bytes) : Bytes :=
  let hashKey := ofBigEndian (Cipher.encryptBlock keys (List.replicate 16 0))
  xorBytes (bigEndian 16 (fingerprint hashKey message))
    (Cipher.encryptBlock keys (counterBlock nonce 1))

def encrypt (key nonce message : Bytes) : Bytes :=
  let keys := Cipher.roundKeys key
  let hidden := applyStream keys nonce message
  hidden ++ tag keys nonce hidden

/-- Opens what `encrypt` sealed; nothing if the tag at the end is not the right one. -/
def decrypt (key nonce sealed : Bytes) : Option Bytes :=
  if sealed.length < tagSize then none
  else
    let hidden := sealed.take (sealed.length - tagSize)
    let keys := Cipher.roundKeys key
    if sealed.drop (sealed.length - tagSize) = tag keys nonce hidden then
      some (applyStream keys nonce hidden)
    else none

end CollectionTypes.Seal.Authenticated
