import CollectionTypes.Proofs.Seal.Sizes
import CollectionTypes.Seal.Authenticated

/-!
What is sealed opens again, under a key and a nonce of the right sizes. The stream is as long as the
message at least, so adding it twice gives the message back, and the tag is made of the hidden text,
which both sides have. That a changed text does not open is no part of this.
-/

namespace CollectionTypes.Seal

theorem xor_bytes_twice {message stream : Bytes} (enough : message.length ≤ stream.length) :
    xorBytes (xorBytes message stream) stream = message := by
  induction message generalizing stream with
  | nil => rfl
  | cons byte message induction =>
      cases stream with
      | nil => simp at enough
      | cons mask stream =>
          have rest : message.length ≤ stream.length := by simpa using enough
          have tail := induction rest
          simp only [xorBytes, List.zipWith_cons_cons] at tail ⊢
          rw [tail, UInt8.xor_assoc, UInt8.xor_self, UInt8.xor_zero]

namespace Authenticated

open Cipher (blockSize keySize roundKeys)

variable {keys : List Bytes} {nonce : Bytes}

theorem counter_block_length (nonceSized : nonce.length = nonceSize) (counter : Nat) :
    (counterBlock nonce counter).length = blockSize := by
  rw [counterBlock, List.length_append, nonceSized, big_endian_length]
  rfl

theorem key_stream_length (keysSized : ∀ key ∈ keys, key.length = blockSize)
    (nonceSized : nonce.length = nonceSize) (counter blocks : Nat) :
    (keyStream keys nonce counter blocks).length = blockSize * blocks := by
  have each : ∀ index ∈ List.range blocks,
      (Cipher.encryptBlock keys (counterBlock nonce (counter + index))).length = blockSize :=
    fun _ _ => Cipher.encrypt_block_length (counter_block_length nonceSized _) keysSized
  rw [keyStream, flat_map_length each, List.length_range]

theorem stream_covers (keysSized : ∀ key ∈ keys, key.length = blockSize)
    (nonceSized : nonce.length = nonceSize) (message : Bytes) :
    message.length ≤ (keyStream keys nonce 2 ((message.length + 15) / 16)).length := by
  rw [key_stream_length keysSized nonceSized, blockSize]
  omega

theorem apply_stream_length (keysSized : ∀ key ∈ keys, key.length = blockSize)
    (nonceSized : nonce.length = nonceSize) (message : Bytes) :
    (applyStream keys nonce message).length = message.length := by
  rw [applyStream, xor_bytes_length, Nat.min_eq_left (stream_covers keysSized nonceSized message)]

/-- The stream depends on the length of a message alone, and the hidden text has the same. -/
theorem apply_stream_twice (keysSized : ∀ key ∈ keys, key.length = blockSize)
    (nonceSized : nonce.length = nonceSize) (message : Bytes) :
    applyStream keys nonce (applyStream keys nonce message) = message := by
  have same := apply_stream_length keysSized nonceSized message
  rw [applyStream, same]
  exact xor_bytes_twice (stream_covers keysSized nonceSized message)

theorem tag_length (keysSized : ∀ key ∈ keys, key.length = blockSize)
    (nonceSized : nonce.length = nonceSize) (message : Bytes) :
    (tag keys nonce message).length = tagSize := by
  rw [tag, xor_bytes_length, big_endian_length,
    Cipher.encrypt_block_length (counter_block_length nonceSized 1) keysSized]
  rfl

/-- A sealed text is longer than the message, so none is empty. -/
theorem encrypt_length {key : Bytes} (keySized : key.length = keySize)
    (nonceSized : nonce.length = nonceSize) (message : Bytes) :
    (encrypt key nonce message).length = message.length + tagSize := by
  have keysSized := Cipher.round_keys_length keySized
  rw [encrypt, List.length_append, apply_stream_length keysSized nonceSized,
    tag_length keysSized nonceSized]

theorem decrypt_encrypt {key : Bytes} (keySized : key.length = keySize)
    (nonceSized : nonce.length = nonceSize) (message : Bytes) :
    decrypt key nonce (encrypt key nonce message) = some message := by
  have keysSized := Cipher.round_keys_length keySized
  have whole := encrypt_length keySized nonceSized message
  have hidden := apply_stream_length keysSized nonceSized message
  have enough : ¬(encrypt key nonce message).length < tagSize := by omega
  have start : (encrypt key nonce message).length - tagSize =
      (applyStream (roundKeys key) nonce message).length := by omega
  simp only [decrypt, if_neg enough, start]
  simp only [encrypt, List.take_left, List.drop_left, if_true]
  rw [apply_stream_twice keysSized nonceSized]

end Authenticated

end CollectionTypes.Seal
