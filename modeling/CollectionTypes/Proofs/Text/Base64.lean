import CollectionTypes.Text.Base64
import Mathlib.Data.List.Basic

/-!
Bytes come back from their text, and the text is made of letters, digits, hyphens, underscores and
equals signs. Texts that no bytes are written as are no part of this.
-/

namespace CollectionTypes.Text.Base64

def isCodeLetter (letter : Char) : Bool :=
  letter.isAlphanum || letter = '-' || letter = '_' || letter = '='

theorem value_of_letter {value : Nat} (small : value < 64) :
    valueOf (letterOf value) = some value := by
  have each : ∀ value < 64, valueOf (letterOf value) = some value := by decide
  exact each value small

theorem letter_ne_filler {value : Nat} (small : value < 64) : letterOf value ≠ '=' := by
  intro same
  have known := value_of_letter small
  have unknown : valueOf '=' = none := by decide
  rw [same, unknown] at known
  contradiction

theorem letter_is_code {value : Nat} (small : value < 64) :
    isCodeLetter (letterOf value) = true := by
  have each : ∀ value < 64, isCodeLetter (letterOf value) = true := by decide
  exact each value small

/-- The six bits that a letter stands for, cut out of one byte or out of two neighbours. -/
theorem first_bits (a : UInt8) : a.toNat / 4 < 64 := by
  have := a.toNat_lt
  omega

theorem second_bits (a b : UInt8) : a.toNat % 4 * 16 + b.toNat / 16 < 64 := by
  have := b.toNat_lt
  omega

theorem third_bits (b c : UInt8) : b.toNat % 16 * 4 + c.toNat / 64 < 64 := by
  have := c.toNat_lt
  omega

theorem byte_of_bits {a : UInt8} {value : Nat} (same : value = a.toNat) :
    UInt8.ofNat value = a := by
  rw [same, UInt8.ofNat_toNat]

theorem first_byte (a b : UInt8) :
    UInt8.ofNat (a.toNat / 4 * 4 + (a.toNat % 4 * 16 + b.toNat / 16) / 16) = a := by
  have := b.toNat_lt
  exact byte_of_bits (by omega)

theorem second_byte (a b c : UInt8) :
    UInt8.ofNat ((a.toNat % 4 * 16 + b.toNat / 16) % 16 * 16 +
      (b.toNat % 16 * 4 + c.toNat / 64) / 4) = b := by
  have := b.toNat_lt
  have := c.toNat_lt
  exact byte_of_bits (by omega)

theorem third_byte (b c : UInt8) :
    UInt8.ofNat ((b.toNat % 16 * 4 + c.toNat / 64) % 4 * 64 + c.toNat % 64) = c := by
  have := c.toNat_lt
  exact byte_of_bits (by omega)

/-- Four letters that are not fillers stand for three bytes. -/
theorem decode_group {w x y z : Nat} (small : w < 64 ∧ x < 64 ∧ y < 64 ∧ z < 64)
    (rest : List Char) :
    decode (letterOf w :: letterOf x :: letterOf y :: letterOf z :: rest) =
      (decode rest).map fun bytes => UInt8.ofNat (w * 4 + x / 16) ::
        UInt8.ofNat (x % 16 * 16 + y / 4) :: UInt8.ofNat (y % 4 * 64 + z) :: bytes := by
  obtain ⟨first, second, third, fourth⟩ := small
  have filled := letter_ne_filler fourth
  rw [decode.eq_4]
  · simp only [value_of_letter, first, second, third, fourth, bind, Option.bind]
    cases decode rest <;> rfl
  · exact fun _ last _ => absurd last filled
  · exact fun last _ => absurd last filled

theorem decode_pair {w x y : Nat} (small : w < 64 ∧ x < 64 ∧ y < 64) (ending : y % 4 = 0) :
    decode [letterOf w, letterOf x, letterOf y, '='] =
      some [UInt8.ofNat (w * 4 + x / 16), UInt8.ofNat (x % 16 * 16 + y / 4)] := by
  obtain ⟨first, second, third⟩ := small
  rw [decode.eq_3 _ _ _ fun last => absurd last (letter_ne_filler third)]
  simp only [value_of_letter, first, second, third, bind, Option.bind, if_pos ending]

theorem decode_single {w x : Nat} (small : w < 64 ∧ x < 64) (ending : x % 16 = 0) :
    decode [letterOf w, letterOf x, '=', '='] = some [UInt8.ofNat (w * 4 + x / 16)] := by
  obtain ⟨first, second⟩ := small
  rw [decode.eq_2]
  simp only [value_of_letter, first, second, bind, Option.bind, if_pos ending]

/-- Bytes that are written are read back; three at a time, and the last one or two with fillers. -/
theorem decode_encode (bytes : List UInt8) : decode (encode bytes) = some bytes := by
  induction bytes using encode.induct with
  | case1 a b c rest induction =>
      have last : c.toNat % 64 < 64 := Nat.mod_lt _ (by decide)
      rw [encode, decode_group ⟨first_bits a, second_bits a b, third_bits b c, last⟩, induction,
        Option.map_some, first_byte, second_byte, third_byte]
  | case2 a b =>
      -- The bits that are left over are those of a byte that is zero.
      have whole := third_bits b 0
      have secondByte := second_byte a b 0
      simp only [UInt8.toNat_zero, Nat.zero_div, Nat.add_zero] at whole secondByte
      rw [encode, decode_pair ⟨first_bits a, second_bits a b, whole⟩ (by omega), first_byte,
        secondByte]
  | case3 a =>
      have whole := second_bits a 0
      have firstByte := first_byte a 0
      simp only [UInt8.toNat_zero, Nat.zero_div, Nat.add_zero] at whole firstByte
      rw [encode, decode_single ⟨first_bits a, whole⟩ (by omega), firstByte]
  | case4 => rfl

theorem encoded_letters (bytes : List UInt8) :
    ∀ letter ∈ encode bytes, isCodeLetter letter = true := by
  have filler : isCodeLetter '=' = true := by decide
  induction bytes using encode.induct with
  | case1 a b c rest induction =>
      have last : c.toNat % 64 < 64 := Nat.mod_lt _ (by decide)
      simp only [encode, List.forall_mem_cons]
      exact ⟨letter_is_code (first_bits a), letter_is_code (second_bits a b),
        letter_is_code (third_bits b c), letter_is_code last, induction⟩
  | case2 a b =>
      have whole := third_bits b 0
      simp only [UInt8.toNat_zero, Nat.zero_div, Nat.add_zero] at whole
      simp [encode, letter_is_code, first_bits, second_bits, whole, filler]
  | case3 a =>
      have whole := second_bits a 0
      simp only [UInt8.toNat_zero, Nat.zero_div, Nat.add_zero] at whole
      simp [encode, letter_is_code, first_bits, whole, filler]
  | case4 => simp [encode]

theorem encode_ne_nil {bytes : List UInt8} (filled : bytes ≠ []) : encode bytes ≠ [] := by
  intro empty
  have known := decode_encode bytes
  rw [empty, decode] at known
  exact filled (Option.some.inj known).symm

end CollectionTypes.Text.Base64
