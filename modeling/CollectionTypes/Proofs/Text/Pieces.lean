import CollectionTypes.Text.Basic

/-!
Cutting at separators, read off a text that is put together from its pieces.
-/

namespace CollectionTypes.Text

variable {Letter : Type} {isSeparator : Letter → Bool}

theorem pieces_of_no_separator {letters : List Letter}
    (clean : ∀ letter ∈ letters, isSeparator letter = false) :
    pieces isSeparator letters = [letters] := by
  induction letters with
  | nil => rfl
  | cons first rest induction =>
      have tail := induction fun letter member => clean letter (List.mem_cons_of_mem _ member)
      simp [pieces, tail, clean first (List.mem_cons_self ..)]

theorem pieces_append_separator {letters : List Letter}
    (clean : ∀ letter ∈ letters, isSeparator letter = false) (separator : Letter)
    (separates : isSeparator separator = true) (rest : List Letter) :
    pieces isSeparator (letters ++ separator :: rest) = letters :: pieces isSeparator rest := by
  induction letters with
  | nil => simp [pieces, separates]
  | cons first letters induction =>
      have tail := induction fun letter member => clean letter (List.mem_cons_of_mem _ member)
      simp [pieces, tail, clean first (List.mem_cons_self ..)]

theorem piece_length {letters piece : List Letter} (member : piece ∈ pieces isSeparator letters) :
    piece.length ≤ letters.length := by
  induction letters generalizing piece with
  | nil => simp_all [pieces]
  | cons first rest induction =>
      rw [pieces] at member
      split at member
      · rcases List.mem_cons.mp member with rfl | later
        · exact Nat.zero_le _
        · exact Nat.le_succ_of_le (induction later)
      · cases following : pieces isSeparator rest with
        | nil => simp_all
        | cons next others =>
            rw [following] at induction member
            rcases List.mem_cons.mp member with rfl | later
            · exact Nat.succ_le_succ (induction (List.mem_cons_self ..))
            · exact Nat.le_succ_of_le (induction (List.mem_cons_of_mem _ later))

/-- A later piece stands behind the first one and a separator. -/
theorem later_piece_length {letters piece : List Letter}
    (member : piece ∈ (pieces isSeparator letters).tail) :
    (letters.takeWhile (!isSeparator ·)).length + 1 + piece.length ≤ letters.length := by
  induction letters with
  | nil => simp [pieces] at member
  | cons first rest induction =>
      rw [pieces] at member
      split at member
      · rename_i separates
        have own := piece_length member
        simp only [List.takeWhile_cons, separates, Bool.not_true, Bool.false_eq_true, if_false,
          List.length_nil, List.length_cons]
        omega
      · rename_i goes
        have later := induction member
        rw [Bool.not_eq_true] at goes
        simp only [List.takeWhile_cons, goes, Bool.not_false, if_true, List.length_cons]
        omega

/-- A run of letters that pass a test ends at the first letter that does not. -/
theorem run_until {test : Letter → Bool} {letters : List Letter}
    (pass : ∀ letter ∈ letters, test letter = true) (mark : Letter) (stop : test mark = false)
    (rest : List Letter) :
    (letters ++ mark :: rest).takeWhile test = letters ∧
      (letters ++ mark :: rest).dropWhile test = mark :: rest := by
  constructor
  · rw [List.takeWhile_append_of_pos pass, List.takeWhile_cons_of_neg (by simp [stop])]
    simp
  · rw [List.dropWhile_append_of_pos pass, List.dropWhile_cons_of_neg (by simp [stop])]

theorem no_separator {separator : Char} {line : List Char} (clean : separator ∉ line) :
    ∀ letter ∈ line, decide (letter = separator) = false := by
  intro letter member
  simp only [decide_eq_false_iff_not]
  rintro rfl
  exact clean member

theorem split_single {separator : Char} {line : String} (clean : separator ∉ line.toList) :
    split separator line = [line] := by
  rw [split, pieces_of_no_separator (no_separator clean)]
  simp

theorem split_first {line : String} (clean : '\n' ∉ line.toList) (rest : String) :
    split '\n' (line ++ ("\n" ++ rest)) = line :: split '\n' rest := by
  have letters : (line ++ ("\n" ++ rest)).toList = line.toList ++ '\n' :: rest.toList := by simp
  rw [split, letters, pieces_append_separator (no_separator clean) '\n' (by decide)]
  simp [split]

/-- Lines that each end with a line feed, before a text of whatever lines. -/
theorem split_lines {lines : List String} (clean : ∀ line ∈ lines, '\n' ∉ line.toList)
    (rest : String) :
    split '\n' (String.join (lines.map fun line => line ++ "\n") ++ rest) =
      lines ++ split '\n' rest := by
  induction lines with
  | nil => simp
  | cons line lines induction =>
      have tail := induction fun other member => clean other (List.mem_cons_of_mem _ member)
      rw [List.map_cons, String.join_cons, String.append_assoc, String.append_assoc,
        split_first (clean line (List.mem_cons_self ..)), tail]
      rfl

/-- A block of lines between a head and a last line. -/
theorem split_block {head : String} {lines : List String} (headClean : '\n' ∉ head.toList)
    (clean : ∀ line ∈ lines, '\n' ∉ line.toList) (last : String)
    (lastClean : '\n' ∉ last.toList) :
    split '\n' (head ++ ("\n" ++ (String.join (lines.map fun line => line ++ "\n") ++ last))) =
      head :: (lines ++ [last]) := by
  rw [split_first headClean, split_lines clean, split_single lastClean]

end CollectionTypes.Text
