import CollectionTypes.Text.Digits
import Mathlib.Data.List.Induction
import Mathlib.Logic.Function.Basic

/-!
Decimal digits lose nothing: reading them back gives the number that was written, so that numbers
with the same text are the same. What else is read as a number has zeros in front, or a plus sign.
-/

namespace CollectionTypes.Text.Decimal

theorem digit_value_of_digit (value : Nat) : digitValue (digit value) = value % 10 := by
  have small : ∀ units < 10, digitValue (Char.ofNat ('0'.toNat + units)) = units := by decide
  exact small (value % 10) (Nat.mod_lt _ (by decide))

theorem digit_is_digit (value : Nat) : isDigit (digit value) = true := by
  have small : ∀ units < 10, isDigit (Char.ofNat ('0'.toNat + units)) = true := by decide
  exact small (value % 10) (Nat.mod_lt _ (by decide))

theorem digits_ne_nil (value : Nat) : digits value ≠ [] := by
  rw [digits]
  split <;> simp

theorem digits_are_digits (value : Nat) : ∀ letter ∈ digits value, isDigit letter = true := by
  induction value using Nat.strongRecOn with
  | ind value earlier =>
      intro letter member
      rw [digits] at member
      split at member
      · rw [List.mem_singleton.mp member]
        exact digit_is_digit value
      · rcases List.mem_append.mp member with before | last
        · exact earlier (value / 10) (by omega) letter before
        · rw [List.mem_singleton.mp last]
          exact digit_is_digit _

theorem value_from_digits (value : Nat) : valueFrom 0 (digits value) = value := by
  induction value using Nat.strongRecOn with
  | ind value earlier =>
      rw [digits]
      split
      · rename_i small
        simp [valueFrom, digit_value_of_digit, Nat.mod_eq_of_lt small]
      · have tens := earlier (value / 10) (by omega)
        unfold valueFrom at tens ⊢
        rw [List.foldl_append, tens]
        simp only [List.foldl_cons, List.foldl_nil, digit_value_of_digit]
        omega

theorem parse_signed_digits (value : Nat) :
    parseSigned (digits value) = some value := by
  have own := digits_are_digits value
  have filled := digits_ne_nil value
  have plain : parse (digits value) = some value := by
    have all : (digits value).all isDigit = true := List.all_eq_true.mpr own
    simp [parse, filled, all, value_from_digits]
  unfold parseSigned
  split
  · rename_i rest same
    have sign := own '+' (by rw [same]; exact List.mem_cons_self ..)
    exact absurd sign (by decide)
  · exact plain

/-- No number but zero is written with a zero in front. -/
theorem digits_lead {value : Nat} (positive : 0 < value) :
    ∃ first others, digits value = first :: others ∧ first ≠ '0' := by
  induction value using Nat.strongRecOn with
  | ind value earlier =>
      rw [digits]
      split
      · rename_i small
        have shown : ∀ units < 10, 0 < units → digit units ≠ '0' := by decide
        exact ⟨digit value, [], rfl, shown value small positive⟩
      · obtain ⟨first, others, lead, shown⟩ := earlier (value / 10) (by omega) (by omega)
        exact ⟨first, others ++ [digit (value % 10)], by rw [lead]; rfl, shown⟩

/-- Numbers are written as they commonly are. -/
theorem write_eq_to_string (value : Nat) : write value = toString value := by
  have shown : ∀ units < 10, digit units = units.digitChar := by decide
  have letters : digits value = Nat.toDigits 10 value := by
    induction value using Nat.strongRecOn with
    | ind value earlier =>
        rw [digits, Nat.toDigits_eq_if (by decide)]
        split
        · rename_i small
          rw [shown value small]
        · rw [earlier (value / 10) (by omega), shown (value % 10) (by omega)]
  rw [write, letters, Nat.toString_eq_ofList_toDigits]

theorem digits_injective : Function.Injective digits := by
  intro left right same
  rw [← value_from_digits left, ← value_from_digits right, same]

theorem write_injective : Function.Injective write := by
  intro left right same
  apply digits_injective
  simpa [write] using congrArg String.toList same

theorem write_ne_empty (value : Nat) : write value ≠ "" := by
  intro empty
  have letters := congrArg String.toList empty
  simp only [write, String.toList_ofList, String.toList_empty] at letters
  exact digits_ne_nil value letters

/-! Numerals: a number may be read from more texts than the one it is written as. -/

def IsNumeral (value : Nat) (letters : List Char) : Prop :=
  ∃ zeros, letters = List.replicate zeros '0' ++ digits value

theorem digit_of_digit_value {letter : Char} (shown : isDigit letter = true) :
    digit (digitValue letter) = letter := by
  have small : ∀ code < '9'.toNat + 1, isDigit (Char.ofNat code) = true →
      digit (digitValue (Char.ofNat code)) = Char.ofNat code := by decide
  have bound : letter.toNat < '9'.toNat + 1 :=
    Nat.lt_succ_of_le (of_decide_eq_true (Bool.and_eq_true_iff.mp shown).2)
  have own := small letter.toNat bound
  rw [Char.ofNat_toNat] at own
  exact own shown

theorem digit_value_lt {letter : Char} (shown : isDigit letter = true) :
    digitValue letter < 10 := by
  have own := digit_value_of_digit (digitValue letter)
  rw [digit_of_digit_value shown] at own
  omega

theorem value_from_append (letters : List Char) (last : Char) :
    valueFrom 0 (letters ++ [last]) = 10 * valueFrom 0 letters + digitValue last := by
  simp [valueFrom]

/-- One more digit behind a numeral. -/
theorem numeral_append {value : Nat} {letters : List Char} (numeral : IsNumeral value letters)
    {last : Char} (shown : isDigit last = true) :
    IsNumeral (10 * value + digitValue last) (letters ++ [last]) := by
  obtain ⟨zeros, rfl⟩ := numeral
  have small := digit_value_lt shown
  have same := digit_of_digit_value shown
  rcases Nat.eq_zero_or_pos value with rfl | positive
  · refine ⟨zeros + 1, ?_⟩
    have units : digits (10 * 0 + digitValue last) = [last] := by
      rw [digits, if_pos (by omega), Nat.mul_zero, Nat.zero_add, same]
    have zero : digits 0 = ['0'] := by rw [digits]; rfl
    rw [units, zero, List.replicate_succ']
  · refine ⟨zeros, ?_⟩
    have tens : (10 * value + digitValue last) / 10 = value := by omega
    have units : digit ((10 * value + digitValue last) % 10) = last := by
      rw [show (10 * value + digitValue last) % 10 = digitValue last by omega, same]
    have next : digits (10 * value + digitValue last) = digits value ++ [last] := by
      rw [digits, if_neg (by omega), tens, units]
    rw [next, List.append_assoc]

theorem numeral_of_digits {letters : List Char} (some : letters ≠ [])
    (shown : ∀ letter ∈ letters, isDigit letter = true) :
    IsNumeral (valueFrom 0 letters) letters := by
  induction letters using List.reverseRecOn with
  | nil => contradiction
  | append_singleton earlier last induction =>
      obtain ⟨before, own⟩ := List.forall_mem_append.mp shown
      have lastShown := own last (List.mem_singleton_self last)
      rw [value_from_append]
      rcases List.eq_nil_or_concat earlier with rfl | ⟨_, _, rfl⟩
      · refine ⟨0, ?_⟩
        have units : digits (digitValue last) = [last] := by
          rw [digits, if_pos (digit_value_lt lastShown), digit_of_digit_value lastShown]
        simp [valueFrom, units]
      · exact numeral_append (induction (by simp) before) lastShown

theorem numeral_digits {value : Nat} {letters : List Char} (numeral : IsNumeral value letters) :
    letters ≠ [] ∧ ∀ letter ∈ letters, isDigit letter = true := by
  obtain ⟨zeros, rfl⟩ := numeral
  refine ⟨List.append_ne_nil_of_right_ne_nil _ (digits_ne_nil value), ?_⟩
  rw [List.forall_mem_append]
  refine ⟨fun letter member => ?_, digits_are_digits value⟩
  rw [List.eq_of_mem_replicate member]
  rfl

theorem value_of_numeral {value : Nat} {letters : List Char} (numeral : IsNumeral value letters) :
    valueFrom 0 letters = value := by
  obtain ⟨zeros, rfl⟩ := numeral
  have none : valueFrom 0 (List.replicate zeros '0') = 0 := by
    induction zeros with
    | zero => rfl
    | succ zeros induction =>
        rw [List.replicate_succ', value_from_append, induction]
        rfl
  have own := value_from_digits value
  unfold valueFrom at none own ⊢
  rw [List.foldl_append, none, own]

/-- What is read as a number are its numerals. -/
theorem parse_eq_some_iff {value : Nat} {letters : List Char} :
    parse letters = some value ↔ IsNumeral value letters := by
  constructor
  · intro read
    rw [parse] at read
    split at read
    · rename_i wellFormed
      simp only [ne_eq, Bool.and_eq_true, decide_eq_true_eq, List.all_eq_true] at wellFormed
      rw [← Option.some.inj read]
      exact numeral_of_digits wellFormed.1 wellFormed.2
    · contradiction
  · intro numeral
    obtain ⟨some, shown⟩ := numeral_digits numeral
    rw [parse, if_pos (by simpa using ⟨some, shown⟩), value_of_numeral numeral]

theorem parse_signed_eq_some_iff {value : Nat} {letters : List Char} :
    parseSigned letters = some value ↔
      IsNumeral value letters ∨ ∃ rest, letters = '+' :: rest ∧ IsNumeral value rest := by
  unfold parseSigned
  split
  · rename_i rest
    have noDigit : ¬IsNumeral value ('+' :: rest) := fun numeral =>
      absurd ((numeral_digits numeral).2 '+' (List.mem_cons_self ..)) (by decide)
    simp [parse_eq_some_iff, noDigit]
  · rename_i unsigned
    rw [parse_eq_some_iff]
    exact (or_iff_left fun ⟨rest, same, _⟩ => unsigned rest same).symm

end CollectionTypes.Text.Decimal
