import CollectionTypes.Text.Digits
import CollectionTypes.Text.Lowercase
import Mathlib.Data.List.Basic

/-!
Lower case of ASCII texts, where the rules for every script come to those for the letters A to Z.
Nothing but these letters changes, so numbers read as before. In texts of any script the letters A to
Z are as good as their small letters, and two texts with one lower case differ in no other letter of
ASCII. What becomes of letters beyond ASCII is no part of this.
-/

namespace CollectionTypes.Text

section Letters

variable {letter : Char}

/-- What holds for the first 128 code points holds for every ASCII letter. -/
theorem of_ascii (holds : Char → Prop) (codes : ∀ code < 128, holds (Char.ofNat code))
    (ascii : letter.toNat < 128) : holds letter := by
  have here := codes letter.toNat ascii
  rwa [Char.ofNat_toNat] at here

theorem to_lower_of_high (high : 128 ≤ letter.toNat) : letter.toLower = letter := by
  have beyond : ¬(letter.val ≥ 'A'.val ∧ letter.val ≤ 'Z'.val) := by
    rintro ⟨_, within⟩
    have bound : letter.toNat ≤ 'Z'.toNat := within
    have last : 'Z'.toNat = 90 := rfl
    omega
  exact dif_neg beyond

/-- What does not tell a letter A to Z from its small letter does not tell any two letters with one
lower case apart. -/
theorem same_in_lower_case {α : Type} (trait : Char → α)
    (codes : ∀ code < 128, trait (Char.ofNat code).toLower = trait (Char.ofNat code))
    (letter : Char) : trait letter.toLower = trait letter := by
  by_cases ascii : letter.toNat < 128
  · exact of_ascii (fun letter => trait letter.toLower = trait letter) codes ascii
  · rw [to_lower_of_high (by omega)]

theorem to_lower_of_ascii (ascii : letter.toNat < 128) :
    letter.toLower.toNat < 128 ∧ letter.toLower.toLower = letter.toLower :=
  of_ascii (fun letter => letter.toLower.toNat < 128 ∧ letter.toLower.toLower = letter.toLower)
    (by decide) ascii

/-- Of a table only the ranges that begin in ASCII say anything about its letters. -/
theorem in_ranges_of_ascii (ranges : List (Nat × Nat)) (ascii : letter.toNat < 128) :
    inRanges ranges letter = inRanges (ranges.filter (·.1 < 128)) letter := by
  rw [inRanges, inRanges, List.any_filter]
  refine congrArg ranges.any (funext fun (first, last) => ?_)
  rw [Bool.eq_iff_iff]
  simp only [Bool.and_eq_true, decide_eq_true_eq]
  omega

theorem in_ranges_lower {ranges within : List (Nat × Nat)}
    (opening : ranges.filter (·.1 < 128) = within)
    (codes : ∀ code < 128,
      inRanges within (Char.ofNat code).toLower = inRanges within (Char.ofNat code))
    (letter : Char) : inRanges ranges letter.toLower = inRanges ranges letter := by
  by_cases ascii : letter.toNat < 128
  · rw [in_ranges_of_ascii ranges ascii, in_ranges_of_ascii ranges (to_lower_of_ascii ascii).1,
      opening]
    exact same_in_lower_case (inRanges within) codes letter
  · rw [to_lower_of_high (by omega)]

theorem cased_lower (letter : Char) : isCased letter.toLower = isCased letter :=
  have opening : casedRanges.filter (·.1 < 128) = [(0x41, 0x5a), (0x61, 0x7a)] := by
    decide +kernel
  in_ranges_lower opening (by decide +kernel) letter

theorem case_ignorable_lower (letter : Char) :
    isCaseIgnorable letter.toLower = isCaseIgnorable letter :=
  have opening : caseIgnorableRanges.filter (·.1 < 128) =
      [(0x27, 0x27), (0x2e, 0x2e), (0x3a, 0x3a), (0x5e, 0x5e), (0x60, 0x60)] := by
    decide +kernel
  in_ranges_lower opening (by decide +kernel) letter

def asciiRun : CaseRun := ⟨0x41, 0x5a, 1, 32⟩

/-- Of the runs of capital letters only the first one begins in ASCII. -/
theorem run_of_ascii (ascii : letter.toNat < 128) :
    caseRuns.find? (·.covers letter.toNat) = [asciiRun].find? (·.covers letter.toNat) := by
  have opening : caseRuns.filter (·.first < 128) = [asciiRun] := rfl
  rw [← opening, List.find?_filter]
  refine congrArg (caseRuns.find? ·) (funext fun run => ?_)
  rw [Bool.eq_iff_iff]
  simp only [CaseRun.covers, Bool.and_eq_true, decide_eq_true_eq]
  constructor
  · rintro ⟨⟨begins, ends⟩, step⟩
    exact ⟨by omega, ⟨begins, ends⟩, step⟩
  · exact fun ⟨_, covered⟩ => covered

theorem small_letter_of_ascii (ascii : letter.toNat < 128) :
    smallLetter letter = letter.toLower := by
  have capital : asciiRun.covers letter.toNat = true →
      Char.ofNat (letter.toNat + asciiRun.offset).toNat = letter.toLower :=
    of_ascii (fun letter => asciiRun.covers letter.toNat = true →
      Char.ofNat (letter.toNat + asciiRun.offset).toNat = letter.toLower) (by decide +kernel) ascii
  have small : asciiRun.covers letter.toNat = false → letter = letter.toLower :=
    of_ascii (fun letter => asciiRun.covers letter.toNat = false → letter = letter.toLower)
      (by decide +kernel) ascii
  rw [smallLetter, run_of_ascii ascii, List.find?_singleton]
  cases covered : asciiRun.covers letter.toNat with
  | true => exact capital covered
  | false => exact small covered

theorem small_letter_lower (letter : Char) : smallLetter letter.toLower = smallLetter letter := by
  by_cases ascii : letter.toNat < 128
  · obtain ⟨lowerAscii, again⟩ := to_lower_of_ascii ascii
    rw [small_letter_of_ascii ascii, small_letter_of_ascii lowerAscii, again]
  · rw [to_lower_of_high (by omega)]

end Letters

/-- What a letter becomes: as many letters wherever it stands, and its small letter if it is ASCII. -/
theorem lower_from_cons (before : List Char) (letter : Char) (rest : List Char) :
    ∃ small, lowerFrom before (letter :: rest) = small ++ lowerFrom (letter :: before) rest ∧
      small.length = (if letter = 'İ' then 2 else 1) ∧
      (letter.toNat < 128 → small = [letter.toLower]) := by
  refine ⟨_, rfl, ?_, fun ascii => ?_⟩
  · split_ifs <;> rfl
  · have dotless : letter ≠ 'İ' := by
      rintro rfl
      contradiction
    have noSigma : letter ≠ 'Σ' := by
      rintro rfl
      contradiction
    simp only [if_neg dotless, if_neg noSigma, small_letter_of_ascii ascii]

theorem lower_from_of_ascii {letters : List Char} (ascii : ∀ letter ∈ letters, letter.toNat < 128)
    (before : List Char) : lowerFrom before letters = letters.map Char.toLower := by
  induction letters generalizing before with
  | nil => rfl
  | cons letter rest induction =>
      obtain ⟨first, others⟩ := List.forall_mem_cons.mp ascii
      obtain ⟨small, split, _, single⟩ := lower_from_cons before letter rest
      rw [split, single first, induction others (letter :: before)]
      rfl

/-! Texts of any script. -/

theorem meets_cased_lower (letters : List Char) :
    meetsCased (letters.map Char.toLower) = meetsCased letters := by
  have same : isCaseIgnorable ∘ Char.toLower = isCaseIgnorable := funext case_ignorable_lower
  rw [meetsCased, meetsCased, List.dropWhile_map, same]
  cases letters.dropWhile isCaseIgnorable with
  | nil => rfl
  | cons letter rest => exact cased_lower letter

/-- The letters A to Z may be made small before anything else is. -/
theorem lower_from_lower (before letters : List Char) :
    lowerFrom (before.map Char.toLower) (letters.map Char.toLower) = lowerFrom before letters := by
  induction letters generalizing before with
  | nil => rfl
  | cons letter rest induction =>
      have later := induction (letter :: before)
      have dotted := same_in_lower_case (fun letter => decide (letter = 'İ')) (by decide) letter
      have sigma := same_in_lower_case (fun letter => decide (letter = 'Σ')) (by decide) letter
      simp only [decide_eq_decide] at dotted sigma
      rw [List.map_cons, lowerFrom, lowerFrom, meets_cased_lower, meets_cased_lower,
        small_letter_lower]
      rw [List.map_cons] at later
      simp only [dotted, sigma, later]

def beyondAscii (letter : Char) : Option Char := if letter.toNat < 128 then none else some letter

theorem beyond_ascii_lower (letters : List Char) :
    (letters.map Char.toLower).map beyondAscii = letters.map beyondAscii := by
  rw [List.map_map]
  exact congrArg letters.map (funext (same_in_lower_case beyondAscii (by decide)))

theorem beyond_ascii_eq {letter twin : Char} (same : beyondAscii letter = beyondAscii twin) :
    (letter.toNat < 128 ∧ twin.toNat < 128) ∨ letter = twin := by
  unfold beyondAscii at same
  split at same <;> split at same
  · exact .inl ⟨‹_›, ‹_›⟩
  · contradiction
  · contradiction
  · exact .inr (Option.some.inj same)

/-- Texts with one lower case and the same letters beyond ASCII differ in the size of the letters A
to Z alone. By induction on the texts, whose first letters become as many letters each. -/
theorem ascii_lower_of_same {left right before other : List Char}
    (same : lowerFrom before left = lowerFrom other right)
    (letters : left.map beyondAscii = right.map beyondAscii) :
    left.map Char.toLower = right.map Char.toLower := by
  induction left generalizing right before other with
  | nil => rw [List.map_eq_nil_iff.mp letters.symm]
  | cons letter rest induction =>
      cases right with
      | nil => contradiction
      | cons twin others =>
          obtain ⟨first, later⟩ := List.cons.inj letters
          obtain ⟨small, split, count, single⟩ := lower_from_cons before letter rest
          obtain ⟨smallTwin, splitTwin, countTwin, singleTwin⟩ := lower_from_cons other twin others
          rw [split, splitTwin] at same
          rw [List.map_cons, List.map_cons]
          rcases beyond_ascii_eq first with ⟨ascii, twinAscii⟩ | rfl
          · rw [single ascii, singleTwin twinAscii] at same
            obtain ⟨here, sameRest⟩ := List.cons.inj same
            rw [here, induction sameRest later]
          · have sameRest := (List.append_inj same (count.trans countTwin.symm)).2
            rw [induction sameRest later]

/-- Comparing letters A to Z alone is comparing lower case and the letters beyond ASCII. -/
theorem ascii_lower_eq_iff_letters {left right : List Char} :
    left.map Char.toLower = right.map Char.toLower ↔
      lowerFrom [] left = lowerFrom [] right ∧ left.map beyondAscii = right.map beyondAscii := by
  constructor
  · intro same
    have small (letters : List Char) : lowerFrom [] (letters.map Char.toLower) =
        lowerFrom [] letters := lower_from_lower [] letters
    exact ⟨by rw [← small left, same, small], by rw [← beyond_ascii_lower, same, beyond_ascii_lower]⟩
  · exact fun ⟨same, letters⟩ => ascii_lower_of_same same letters

/-! Numbers read the same in lower case. -/

theorem digit_lower {letter : Char} (digit : Decimal.isDigit letter = true) :
    letter.toLower = letter := by
  by_cases ascii : letter.toNat < 128
  · have codes : ∀ code < 128, Decimal.isDigit (Char.ofNat code) = true →
        (Char.ofNat code).toLower = Char.ofNat code := by
      decide +kernel
    exact of_ascii (fun letter => Decimal.isDigit letter = true →
      letter.toLower = letter) codes ascii digit
  · exact to_lower_of_high (by omega)

theorem parse_lower (letters : List Char) :
    Decimal.parse (letters.map Char.toLower) = Decimal.parse letters := by
  have trait := same_in_lower_case Decimal.isDigit (by decide +kernel)
  have sameDigits : (letters.map Char.toLower).all Decimal.isDigit =
      letters.all Decimal.isDigit := by
    rw [List.all_map]
    exact congrArg letters.all (funext trait)
  by_cases digits : letters.all Decimal.isDigit = true
  · have same : letters.map Char.toLower = letters :=
      (List.map_congr_left fun letter member =>
        digit_lower (List.all_eq_true.mp digits letter member)).trans (List.map_id letters)
    rw [same]
  · rw [Decimal.parse, Decimal.parse, sameDigits, eq_false_of_ne_true digits]
    simp

theorem parse_signed_lower (letters : List Char) :
    Decimal.parseSigned (letters.map Char.toLower) = Decimal.parseSigned letters := by
  cases letters with
  | nil => rfl
  | cons letter rest =>
      by_cases plus : letter = '+'
      · subst plus
        exact parse_lower rest
      · have trait := same_in_lower_case (fun letter => decide (letter = '+'))
          (by decide +kernel) letter
        have lowerPlus : letter.toLower ≠ '+' := by simpa [plus] using trait
        have unsigned {first : Char} (noPlus : first ≠ '+') (others : List Char) :
            Decimal.parseSigned (first :: others) = Decimal.parse (first :: others) := by
          rw [Decimal.parseSigned]
          simp [noPlus]
        rw [List.map_cons, unsigned lowerPlus, unsigned plus]
        exact parse_lower (letter :: rest)

end CollectionTypes.Text
