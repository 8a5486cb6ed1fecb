import CollectionTypes.Text.Digits
import Mathlib.Data.List.Basic

/-!
Texts between double quotes as Go reads them, with all of its escapes: letters by name, bytes by
their number and letters by their code point. What is read is a text of bytes, never longer than
what was written, and as long only if nothing was escaped. That the bytes make up letters is not
asked of them.
-/

namespace CollectionTypes.Go.Quotation

open Text

/-- Texts that are read are bytes: an escape can stand for a part of a letter. -/
def utf8 (letters : List Char) : List UInt8 := letters.flatMap String.utf8EncodeChar

theorem utf8_append (left right : List Char) : utf8 (left ++ right) = utf8 left ++ utf8 right :=
  List.flatMap_append

theorem utf8_injective : Function.Injective utf8 := by
  intro left right same
  have encoded : left.utf8Encode = right.utf8Encode := congrArg List.toByteArray same
  have texts : String.ofList left = String.ofList right := by
    rw [← String.toByteArray_inj, String.toByteArray_ofList, String.toByteArray_ofList, encoded]
  simpa using congrArg String.toList texts

theorem utf8_cons_length (letter : Char) (letters : List Char) :
    (utf8 (letter :: letters)).length = letter.utf8Size + (utf8 letters).length := by
  rw [utf8, List.flatMap_cons, List.length_append, String.length_utf8EncodeChar]
  rfl

theorem length_le_utf8 (letters : List Char) : letters.length ≤ (utf8 letters).length := by
  induction letters with
  | nil => exact Nat.le_refl 0
  | cons letter letters induction =>
      have own := Char.utf8Size_pos letter
      rw [utf8_cons_length, List.length_cons]
      omega

theorem utf8_sublist_length {left right : List Char} (sublist : left.Sublist right) :
    (utf8 left).length ≤ (utf8 right).length := by
  induction sublist with
  | slnil => exact Nat.le_refl 0
  | cons letter _ induction =>
      rw [utf8_cons_length]
      omega
  | cons_cons letter _ induction =>
      rw [utf8_cons_length, utf8_cons_length]
      omega

theorem utf8_drop_length {letters : List Char} {letter : Char} (member : letter ∈ letters) :
    (utf8 (letters.filter (· ≠ letter))).length < (utf8 letters).length := by
  obtain ⟨before, after, rfl⟩ := List.append_of_mem member
  have own := Char.utf8Size_pos letter
  have first := utf8_sublist_length (List.filter_sublist (p := (· ≠ letter)) (l := before))
  have last := utf8_sublist_length (List.filter_sublist (p := (· ≠ letter)) (l := after))
  have dropped : (letter :: after).filter (· ≠ letter) = after.filter (· ≠ letter) := by simp
  rw [List.filter_append, dropped, utf8_append, utf8_append, List.length_append,
    List.length_append, utf8_cons_length]
  omega

/-- A quoted text as it is written, up to the quote that ends it, and what follows. A backslash
takes the next letter along. -/
def quotedPart : List Char → Option (List Char × List Char)
  | [] => none
  | '"' :: rest => some ([], rest)
  | '\\' :: escaped :: rest => do
      let (inside, after) ← quotedPart rest
      some ('\\' :: escaped :: inside, after)
  | letter :: rest => do
      let (inside, after) ← quotedPart rest
      some (letter :: inside, after)

def simpleEscape : Char → Option UInt8
  | 'a' => some 7
  | 'b' => some 8
  | 't' => some 9
  | 'n' => some 10
  | 'v' => some 11
  | 'f' => some 12
  | 'r' => some 13
  | '"' => some 34
  | '\\' => some 92
  | _ => none

def isOctal (letter : Char) : Bool := '0' ≤ letter && letter ≤ '7'

def octalValue? (letters : List Char) : Option Nat :=
  if letters.all isOctal then
    some (letters.foldl (fun value letter => 8 * value + Decimal.digitValue letter) 0)
  else none

def readCode (value? : List Char → Option Nat) (count : Nat) (letters : List Char) :
    Option (Nat × List Char) :=
  if letters.length < count then none
  else (value? (letters.take count)).map fun code => (code, letters.drop count)

def byteEscape (value? : List Char → Option Nat) (count : Nat) (letters : List Char) :
    Option (List UInt8 × List Char) := do
  let (code, after) ← readCode value? count letters
  if code < 256 then some ([UInt8.ofNat code], after) else none

def letterEscape (count : Nat) (letters : List Char) : Option (List UInt8 × List Char) := do
  let (code, after) ← readCode Hexadecimal.value? count letters
  if code.isValidChar then some (String.utf8EncodeChar (Char.ofNat code), after) else none

def readEscape : List Char → Option (List UInt8 × List Char)
  | [] => none
  | letter :: rest =>
      if letter = 'x' then byteEscape Hexadecimal.value? 2 rest
      else if letter = 'u' then letterEscape 4 rest
      else if letter = 'U' then letterEscape 8 rest
      else if isOctal letter then byteEscape octalValue? 3 (letter :: rest)
      else (simpleEscape letter).map fun byte => ([byte], rest)

theorem read_code_split {value? : List Char → Option Nat} {count code : Nat}
    {letters after : List Char} (found : readCode value? count letters = some (code, after)) :
    ∃ digits, letters = digits ++ after ∧ digits.length = count := by
  unfold readCode at found
  split at found
  · contradiction
  · obtain ⟨_, _, same⟩ := Option.map_eq_some_iff.mp found
    refine ⟨letters.take count, ?_, by rw [List.length_take]; omega⟩
    rw [← (Prod.mk.inj same).2, List.take_append_drop]

theorem byte_escape_split {value? : List Char → Option Nat} {count : Nat}
    {letters after : List Char} {bytes : List UInt8}
    (found : byteEscape value? count letters = some (bytes, after)) :
    ∃ digits, letters = digits ++ after ∧ digits.length = count ∧ bytes.length = 1 := by
  obtain ⟨⟨code, others⟩, read, made⟩ := Option.bind_eq_some_iff.mp found
  obtain ⟨digits, split, length⟩ := read_code_split read
  dsimp only at made
  split at made
  · obtain ⟨rfl, rfl⟩ := Prod.mk.inj (Option.some.inj made)
    exact ⟨digits, split, length, rfl⟩
  · contradiction

theorem letter_escape_split {count : Nat} {letters after : List Char} {bytes : List UInt8}
    (found : letterEscape count letters = some (bytes, after)) :
    ∃ digits, letters = digits ++ after ∧ digits.length = count ∧ bytes.length ≤ 4 := by
  obtain ⟨⟨code, others⟩, read, made⟩ := Option.bind_eq_some_iff.mp found
  obtain ⟨digits, split, length⟩ := read_code_split read
  dsimp only at made
  split at made
  · obtain ⟨rfl, rfl⟩ := Prod.mk.inj (Option.some.inj made)
    refine ⟨digits, split, length, ?_⟩
    rw [String.length_utf8EncodeChar]
    exact Char.utf8Size_le_four _
  · contradiction

/-- An escape stands for no more bytes than it has letters behind its backslash. -/
theorem read_escape_split {letters after : List Char} {bytes : List UInt8}
    (found : readEscape letters = some (bytes, after)) :
    ∃ taken, letters = taken ++ after ∧ bytes.length ≤ taken.length := by
  cases letters with
  | nil => contradiction
  | cons letter rest =>
      rw [readEscape] at found
      split at found
      · obtain ⟨digits, rfl, length, one⟩ := byte_escape_split found
        exact ⟨letter :: digits, rfl, by simp; omega⟩
      split at found
      · obtain ⟨digits, rfl, length, few⟩ := letter_escape_split found
        exact ⟨letter :: digits, rfl, by simp; omega⟩
      split at found
      · obtain ⟨digits, rfl, length, few⟩ := letter_escape_split found
        exact ⟨letter :: digits, rfl, by simp; omega⟩
      split at found
      · obtain ⟨digits, split, length, one⟩ := byte_escape_split found
        exact ⟨digits, split, by omega⟩
      · obtain ⟨byte, _, same⟩ := Option.map_eq_some_iff.mp found
        obtain ⟨rfl, rfl⟩ := Prod.mk.inj same
        exact ⟨[letter], rfl, Nat.le_refl 1⟩

/-- The bytes that a text between quotes stands for. A quote or a line feed cannot stand in it as it
is, and not every letter can stand behind a backslash. -/
def unquote (letters : List Char) : Option (List UInt8) :=
  match letters with
  | [] => some []
  | letter :: rest =>
      if letter = '\\' then
        match _found : readEscape rest with
        | none => none
        | some (bytes, after) => (unquote after).map (bytes ++ ·)
      else if letter = '"' || letter = '\n' then none
      else (unquote rest).map (String.utf8EncodeChar letter ++ ·)
termination_by letters.length
decreasing_by
  · obtain ⟨taken, rfl, _⟩ := read_escape_split _found
    simp only [List.length_cons, List.length_append]
    omega
  · exact Nat.lt_succ_self _

theorem quoted_part_split {letters inside after : List Char}
    (found : quotedPart letters = some (inside, after)) : letters = inside ++ '"' :: after := by
  fun_induction quotedPart letters generalizing inside with
  | case1 => contradiction
  | case2 rest =>
      obtain ⟨rfl, rfl⟩ := Prod.mk.inj (Option.some.inj found)
      rfl
  | case3 escaped rest induction =>
      obtain ⟨⟨others, rest⟩, read, made⟩ := Option.bind_eq_some_iff.mp found
      obtain ⟨rfl, rfl⟩ := Prod.mk.inj (Option.some.inj made)
      rw [induction read]
      rfl
  | case4 letter rest _ _ induction =>
      obtain ⟨⟨others, rest⟩, read, made⟩ := Option.bind_eq_some_iff.mp found
      obtain ⟨rfl, rfl⟩ := Prod.mk.inj (Option.some.inj made)
      rw [induction read]
      rfl

def Unquotable (letters : List Char) : Prop :=
  ∀ letter ∈ letters, letter ≠ '"' ∧ letter ≠ '\\' ∧ letter ≠ '\n'

theorem unquote_plain {letters : List Char} (plain : Unquotable letters) :
    unquote letters = some (utf8 letters) := by
  induction letters with
  | nil =>
      rw [unquote]
      rfl
  | cons letter rest induction =>
      obtain ⟨quote, backslash, feed⟩ := plain letter (List.mem_cons_self ..)
      have tail := induction fun other member => plain other (List.mem_cons_of_mem _ member)
      rw [unquote, if_neg backslash, if_neg (by simp [quote, feed]), tail]
      rfl

/-- A text between quotes stands for itself, or for fewer bytes than it is written with. -/
theorem unquote_cases {letters : List Char} {bytes : List UInt8}
    (found : unquote letters = some bytes) :
    Unquotable letters ∨ bytes.length < (utf8 letters).length := by
  fun_induction unquote letters generalizing bytes with
  | case1 => exact Or.inl fun letter member => absurd member List.not_mem_nil
  | case2 rest unread => contradiction
  | case3 rest escaped after read induction =>
      obtain ⟨others, unquoted, rfl⟩ := Option.map_eq_some_iff.mp found
      obtain ⟨taken, rfl, few⟩ := read_escape_split read
      have behind : others.length ≤ (utf8 after).length := by
        rcases induction unquoted with plain | fewer
        · rw [unquote_plain plain] at unquoted
          exact Nat.le_of_eq (congrArg List.length (Option.some.inj unquoted).symm)
        · omega
      have own := length_le_utf8 taken
      right
      rw [utf8_cons_length, utf8_append, List.length_append, List.length_append]
      have mark : '\\'.utf8Size = 1 := rfl
      omega
  | case4 letter rest _ stops => contradiction
  | case5 letter rest backslash goes induction =>
      obtain ⟨others, unquoted, rfl⟩ := Option.map_eq_some_iff.mp found
      rcases induction unquoted with plain | fewer
      · left
        simp only [Bool.or_eq_true, decide_eq_true_eq, not_or] at goes
        exact List.forall_mem_cons.mpr ⟨⟨goes.1, backslash, goes.2⟩, plain⟩
      · right
        rw [utf8_cons_length, List.length_append, String.length_utf8EncodeChar]
        omega

theorem quoted_part_plain {letters : List Char} (plain : Unquotable letters)
    (after : List Char) : quotedPart (letters ++ '"' :: after) = some (letters, after) := by
  induction letters with
  | nil => rfl
  | cons letter rest induction =>
      obtain ⟨⟨quote, backslash, _⟩, others⟩ := List.forall_mem_cons.mp plain
      rw [List.cons_append, quotedPart, induction others]
      · rfl
      · exact quote
      · exact fun _ _ same _ => backslash same

end CollectionTypes.Go.Quotation
