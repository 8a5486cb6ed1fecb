import CollectionTypes.Seal.Cipher
import CollectionTypes.Seal.Derivation
import Mathlib.Data.List.Basic

/-!
How many bytes there are: derived keys have 32, the round keys of such a key have 16 each, and so
have blocks, encrypted or not. What the bytes are is no part of this.
-/

namespace CollectionTypes.Seal

@[simp] theorem big_endian_length (count value : Nat) : (bigEndian count value).length = count := by
  induction count generalizing value with
  | zero => rfl
  | succ count induction => simp [bigEndian, induction]

@[simp] theorem xor_bytes_length (left right : Bytes) :
    (xorBytes left right).length = min left.length right.length := by
  simp [xorBytes]

theorem flat_map_length {α β : Type} {items : List α} {expand : α → List β} {size : Nat}
    (sized : ∀ item ∈ items, (expand item).length = size) :
    (items.flatMap expand).length = size * items.length := by
  induction items with
  | nil => simp
  | cons item items induction =>
      have tail := induction fun other member => sized other (List.mem_cons_of_mem _ member)
      rw [List.flatMap_cons, List.length_append, sized item (List.mem_cons_self ..), tail,
        List.length_cons, Nat.mul_succ, Nat.add_comm]

/-! Blocks of one size. -/

theorem chunks_nil {α : Type} (size : Nat) : chunks size ([] : List α) = [] := by
  rw [chunks, dif_pos (Or.inr rfl)]

theorem chunks_cons {α : Type} {size : Nat} {items : List α} (positive : 0 < size)
    (filled : items ≠ []) :
    chunks size items = items.take size :: chunks size (items.drop size) := by
  rw [chunks, dif_neg]
  rintro (zero | empty)
  · omega
  · exact filled empty

/-- A multiple of the size is cut without a rest. -/
theorem chunks_of_multiple {α : Type} {size count : Nat} {items : List α} (positive : 0 < size)
    (multiple : items.length = size * count) :
    (chunks size items).length = count ∧ ∀ chunk ∈ chunks size items, chunk.length = size := by
  induction count generalizing items with
  | zero =>
      obtain rfl : items = [] := List.length_eq_zero_iff.mp multiple
      simp [chunks_nil]
  | succ count induction =>
      rw [Nat.mul_succ] at multiple
      have filled : items ≠ [] := by
        rintro rfl
        rw [List.length_nil] at multiple
        omega
      have left : (items.drop size).length = size * count := by
        rw [List.length_drop]
        omega
      obtain ⟨number, sized⟩ := induction left
      rw [chunks_cons positive filled]
      refine ⟨by rw [List.length_cons, number], ?_⟩
      rw [List.forall_mem_cons]
      exact ⟨by rw [List.length_take]; omega, sized⟩

theorem mem_of_mem_chunk {α : Type} {size : Nat} {items chunk : List α} {item : α}
    (isChunk : chunk ∈ chunks size items) (member : item ∈ chunk) : item ∈ items := by
  induction items using chunks.induct size with
  | case1 items stop =>
      rw [chunks, dif_pos stop] at isChunk
      exact absurd isChunk List.not_mem_nil
  | case2 items goes induction =>
      rw [chunks, dif_neg goes, List.mem_cons] at isChunk
      obtain rfl | later := isChunk
      · exact List.mem_of_mem_take member
      · exact List.mem_of_mem_drop (induction later)

namespace Cipher

def blockSize : Nat := 16

@[simp] theorem substitute_all_length (bytes : Bytes) :
    (substituteAll bytes).length = bytes.length := by
  simp [substituteAll]

@[simp] theorem shift_rows_length (block : Bytes) : (shiftRows block).length = blockSize := by
  simp [shiftRows, blockSize]

theorem mix_column_length {column : Bytes} (sized : column.length = 4) :
    (mixColumn column).length = 4 := by
  match column, sized with
  | [a, b, c, d], _ => rfl

theorem mix_columns_length {block : Bytes} (sized : block.length = blockSize) :
    (mixColumns block).length = blockSize := by
  obtain ⟨number, columns⟩ := chunks_of_multiple (by decide) (sized.trans (rfl : _ = 4 * 4))
  rw [mixColumns, flat_map_length fun column member => mix_column_length (columns column member),
    number]
  rfl

/-- By induction on the rounds that are left: each leaves a block. -/
theorem encrypt_rounds_length {block : Bytes} {keys : List Bytes}
    (sized : block.length = blockSize) (keysSized : ∀ key ∈ keys, key.length = blockSize) :
    (encryptRounds block keys).length = blockSize := by
  induction block, keys using encryptRounds.induct with
  | case1 block => exact sized
  | case2 block last =>
      have own := keysSized last (List.mem_singleton_self last)
      simp [encryptRounds, own]
  | case3 block key keys more induction =>
      have own := keysSized key (List.mem_cons_self ..)
      rw [encryptRounds]
      · apply induction
        · rw [xor_bytes_length, mix_columns_length (shift_rows_length _), own, Nat.min_self]
        · exact fun other member => keysSized other (List.mem_cons_of_mem _ member)
      · exact more

theorem encrypt_block_length {block : Bytes} {keys : List Bytes}
    (sized : block.length = blockSize) (keysSized : ∀ key ∈ keys, key.length = blockSize) :
    (encryptBlock keys block).length = blockSize := by
  cases keys with
  | nil => exact sized
  | cons first rest =>
      have own := keysSized first (List.mem_cons_self ..)
      apply encrypt_rounds_length
      · rw [xor_bytes_length, sized, own, Nat.min_self]
      · exact fun other member => keysSized other (List.mem_cons_of_mem _ member)

/-! The key schedule: words of four bytes, one after the other. -/

def wordSize : Nat := 4

theorem next_word_length (index : Nat) (constant : UInt8) {previous eighth : Bytes}
    (previousSized : previous.length = wordSize) (eighthSized : eighth.length = wordSize) :
    (nextWord index constant previous eighth).length = wordSize := by
  have rotated : (previous.drop 1 ++ previous.take 1).length = wordSize := by
    simp only [List.length_append, List.length_drop, List.length_take, previousSized, wordSize]
    rfl
  have constantSized : [constant, 0, 0, 0].length = wordSize := rfl
  rw [nextWord, xor_bytes_length, eighthSized]
  split
  · rw [xor_bytes_length, substitute_all_length, rotated, constantSized, Nat.min_self, Nat.min_self]
  · split
    · rw [substitute_all_length, previousSized, Nat.min_self]
    · rw [previousSized, Nat.min_self]

structure Words (words : Array Bytes) (count : Nat) : Prop where
  number : words.size = count
  sized : ∀ word ∈ words.toList, word.length = wordSize

theorem Words.word_length {words : Array Bytes} {count index : Nat} (held : Words words count)
    (within : index < count) : (words.getD index []).length = wordSize := by
  have inside : index < words.size := by rw [held.number]; exact within
  rw [Array.getD, dif_pos inside]
  exact held.sized _ (by simp)

theorem Words.push {words : Array Bytes} {count : Nat} {word : Bytes} (held : Words words count)
    (sized : word.length = wordSize) : Words (words.push word) (count + 1) where
  number := by rw [Array.size_push, held.number]
  sized := by
    rw [Array.toList_push, List.forall_mem_append, List.forall_mem_singleton]
    exact ⟨held.sized, sized⟩

/-- Each step of the schedule adds one word; by induction on the steps. -/
theorem words_of_schedule {start : Nat} (enough : 8 ≤ start) (steps : Nat)
    {state : Array Bytes × UInt8} (held : Words state.1 start) :
    Words ((List.range' start steps).foldl
      (fun (state : Array Bytes × UInt8) index =>
        let (words, constant) := state
        let word := nextWord index constant (words.getD (index - 1) []) (words.getD (index - 8) [])
        (words.push word, if index % 8 = 0 then double constant else constant)) state).1
      (start + steps) := by
  induction steps generalizing start state with
  | zero => exact held
  | succ steps induction =>
      have previous := held.word_length (by omega : start - 1 < start)
      have eighth := held.word_length (by omega : start - 8 < start)
      have grown := held.push (next_word_length start state.2 previous eighth)
      rw [List.range'_succ, List.foldl_cons, show start + (steps + 1) = start + 1 + steps by omega]
      exact induction (by omega) grown

def keySize : Nat := 32

theorem words_of_key {key : Bytes} (sized : key.length = keySize) :
    Words (expandKey key) wordCount := by
  obtain ⟨number, words⟩ := chunks_of_multiple (by decide) (sized.trans (rfl : _ = 4 * 8))
  have start : Words ((chunks 4 key).toArray, (1 : UInt8)).1 8 := ⟨by simpa using number, words⟩
  exact words_of_schedule (Nat.le_refl 8) (wordCount - 8) start

theorem round_keys_length {key : Bytes} (sized : key.length = keySize) :
    ∀ roundKey ∈ roundKeys key, roundKey.length = blockSize := by
  have words := words_of_key sized
  have number : (expandKey key).toList.length = 4 * 15 := by
    rw [Array.length_toList, words.number]
    rfl
  intro roundKey member
  obtain ⟨group, isGroup, rfl⟩ := List.mem_map.mp member
  have groups := (chunks_of_multiple (by decide) number).2 group isGroup
  have inKey : ∀ word ∈ group, (id word).length = wordSize := by
    intro word inGroup
    exact words.sized word (mem_of_mem_chunk isGroup inGroup)
  rw [List.flatten_eq_flatMap, flat_map_length inKey, groups]
  rfl

end Cipher

namespace Digest

theorem hash_length (message : Bytes) : (hash message).length = 32 := by
  rw [hash, toBytes, flat_map_length fun word _ => big_endian_length 4 word.toNat]
  rfl

end Digest

namespace Derivation

theorem stretch_length (passphrase salt : Bytes) (length : Nat) :
    (stretch passphrase salt length).length = length := by
  have blocks : ∀ index ∈ List.range ((length + 31) / 32),
      (Digest.keyedHash passphrase (salt ++ bigEndian 4 (index + 1))).length = 32 :=
    fun _ _ => Digest.hash_length _
  rw [stretch, List.length_take, flat_map_length blocks, List.length_range]
  omega

/-- Whatever the passphrase, the salt and the cost, the key is one for the cipher. -/
theorem derive_key_length (passphrase salt : Bytes) (cost : Nat) :
    (deriveKey passphrase salt cost).length = Cipher.keySize :=
  stretch_length _ _ _

end Derivation

end CollectionTypes.Seal
