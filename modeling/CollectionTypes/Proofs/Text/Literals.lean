import CollectionTypes.Proofs.Text.Quoted
import CollectionTypes.Proofs.Text.Words

/-!
String literals among other text. A literal ends where it was written to end: no part of it from the
front is a literal, and what follows has no say in it. So a program text can be taken apart into its
code, with every literal emptied, and the texts that the literals hold. The reader knows neither
comments nor literals in backquotes.
-/

namespace CollectionTypes.Text.Quoted

/-- What is read is cut off the front, and reads the same whatever follows it. -/
theorem read_body_split {letters value after : List Char}
    (found : readBody letters = some (value, after)) :
    ∃ taken, taken ≠ [] ∧ letters = taken ++ after ∧
      ∀ more, readBody (taken ++ more) = some (value, more) := by
  -- The cases are those of the reader: the end of the text, the closing quote, an escape, a letter
  -- that may not stand in a literal, and any other letter.
  fun_induction readBody letters generalizing value with
  | case1 => contradiction
  | case2 rest =>
      obtain ⟨rfl, rfl⟩ := Prod.mk.inj (Option.some.inj found)
      exact ⟨['"'], List.cons_ne_nil _ _, rfl, fun more => rfl⟩
  | case3 escaped rest induction =>
      obtain ⟨letter, known, made⟩ := Option.bind_eq_some_iff.mp found
      obtain ⟨⟨letters, suffix⟩, read, same⟩ := Option.bind_eq_some_iff.mp made
      obtain ⟨rfl, rfl⟩ := Prod.mk.inj (Option.some.inj same)
      obtain ⟨taken, _, rfl, others⟩ := induction read
      refine ⟨'\\' :: escaped :: taken, List.cons_ne_nil _ _, rfl, ?_⟩
      intro more
      simp [readBody, known, others]
  | case4 letter rest _ _ stops => contradiction
  | case5 letter rest quote _ goes induction =>
      obtain ⟨⟨letters, suffix⟩, read, same⟩ := Option.bind_eq_some_iff.mp found
      obtain ⟨rfl, rfl⟩ := Prod.mk.inj (Option.some.inj same)
      obtain ⟨taken, _, rfl, others⟩ := induction read
      simp only [Bool.or_eq_true, decide_eq_true_eq, not_or] at goes
      obtain ⟨⟨backslash, feed⟩, return_⟩ := goes
      refine ⟨letter :: taken, List.cons_ne_nil _ _, rfl, ?_⟩
      intro more
      rw [List.cons_append, read_body_plain quote backslash feed return_, others]
      rfl

theorem read_body_shorter {letters value after : List Char}
    (found : readBody letters = some (value, after)) : after.length < letters.length := by
  obtain ⟨taken, some, rfl, _⟩ := read_body_split found
  have positive := List.length_pos_iff.mpr some
  rw [List.length_append]
  omega

theorem read_literal_append_more {letters value after : List Char}
    (found : readLiteral letters = some (value, after)) (more : List Char) :
    readLiteral (letters ++ more) = some (value, after ++ more) := by
  cases letters with
  | nil => contradiction
  | cons first rest =>
      by_cases quote : first = '"'
      · subst quote
        obtain ⟨taken, _, rfl, read⟩ := read_body_split found
        simp [readLiteral, read]
      · simp [readLiteral, quote] at found

theorem read_literal_whole (value : String) :
    readLiteral (literal value).toList = some (value.toList, []) := by
  have read := read_literal_append value []
  rwa [List.append_nil] at read

/-- A literal is read as soon as it is there as a whole, and not before. -/
theorem read_literal_take_iff (value : String) (count : Nat) :
    (readLiteral ((literal value).toList.take count)).isSome = true ↔
      (literal value).toList.length ≤ count := by
  constructor
  · intro early
    obtain ⟨⟨read, after⟩, found⟩ := Option.isSome_iff_exists.mp early
    have whole := read_literal_append_more found ((literal value).toList.drop count)
    rw [List.take_append_drop, read_literal_whole] at whole
    have nothing := (List.append_eq_nil_iff.mp (Prod.mk.inj (Option.some.inj whole)).2.symm).2
    exact List.drop_eq_nil_iff.mp nothing
  · intro enough
    rw [List.take_of_length_le enough, read_literal_whole]
    rfl

/-- Two texts that begin with literals are the same only if the literals are, and what follows. -/
theorem literal_prefix_free {left right : String} {leftRest rightRest : List Char}
    (same : (literal left).toList ++ leftRest = (literal right).toList ++ rightRest) :
    left = right ∧ leftRest = rightRest := by
  have read := read_literal_append left leftRest
  rw [same, read_literal_append] at read
  obtain ⟨values, rests⟩ := Prod.mk.inj (Option.some.inj read)
  exact ⟨(String.toList_inj.mp values).symm, rests.symm⟩

theorem literal_injective : Function.Injective literal := by
  intro left right same
  have whole : (literal left).toList ++ [] = (literal right).toList ++ [] := by rw [same]
  exact (literal_prefix_free whole).1

/-- A text whose literal is read back whole, whatever follows it: no shorter part of the literal is
one, and it stays on its line. -/
structure Enclosed (value : String) : Prop where
  readBack : ∀ following,
    readLiteral ((literal value).toList ++ following) = some (value.toList, following)
  whole : ∀ count, (readLiteral ((literal value).toList.take count)).isSome = true ↔
    (literal value).toList.length ≤ count
  onLine : '\n' ∉ (literal value).toList ∧ '\r' ∉ (literal value).toList

theorem enclosed (value : String) : Enclosed value := by
  have body := (encoded_on_line value.toList).2
  refine ⟨read_literal_append value, read_literal_take_iff value, literal_on_line value, ?_⟩
  simp [literal, literalLetters, body]

/-- A program text taken apart: its code, in which every literal is emptied, and what the literals
hold, in order. A literal that does not end leaves nothing to take apart. -/
def dissect (letters : List Char) : Option (List Char × List String) :=
  match letters with
  | [] => some ([], [])
  | letter :: rest =>
      if letter = '"' then
        match _found : readBody rest with
        | none => none
        | some (value, after) =>
            (dissect after).map fun parts =>
              ((literal "").toList ++ parts.1, String.ofList value :: parts.2)
      else (dissect rest).map fun parts => (letter :: parts.1, parts.2)
termination_by letters.length
decreasing_by
  · exact Nat.lt_succ_of_lt (read_body_shorter _found)
  · exact Nat.lt_succ_self _

def Dissects (text code : String) (values : List String) : Prop :=
  dissect text.toList = some (code.toList, values)

def isCode (letters : List Char) : Bool := letters.all (· ≠ '"')

theorem dissect_code {letters : List Char} (plain : isCode letters = true) (rest : List Char) :
    dissect (letters ++ rest) = (dissect rest).map fun parts => (letters ++ parts.1, parts.2) := by
  induction letters with
  | nil => cases parts : dissect rest <;> simp [parts]
  | cons letter letters induction =>
      rw [isCode, List.all_cons, Bool.and_eq_true] at plain
      obtain ⟨own, others⟩ := plain
      rw [List.cons_append, dissect, if_neg (of_decide_eq_true own), induction others,
        Option.map_map]
      rfl

theorem dissect_literal (value : String) (rest : List Char) :
    dissect ((literal value).toList ++ rest) =
      (dissect rest).map fun parts => ((literal "").toList ++ parts.1, value :: parts.2) := by
  have letters : (literal value).toList ++ rest = '"' :: (encode value.toList ++ '"' :: rest) := by
    simp [literal, literalLetters]
  rw [letters, dissect, if_pos rfl]
  split
  · rename_i unread
    rw [read_body_encode] at unread
    contradiction
  · rename_i read after found
    rw [read_body_encode] at found
    obtain ⟨rfl, rfl⟩ := Prod.mk.inj (Option.some.inj found)
    rw [String.ofList_toList]

abbrev Unquoted (text : String) : Prop := isCode text.toList = true

theorem unquoted_append {left right : String} (leftPlain : Unquoted left)
    (rightPlain : Unquoted right) : Unquoted (left ++ right) := by
  rw [Unquoted, String.toList_append, isCode, List.all_append, Bool.and_eq_true]
  exact ⟨leftPlain, rightPlain⟩

theorem unquoted_of_dotted {name : String}
    (dotted : ∀ letter ∈ name.toList, isDottedLetter letter = true) : Unquoted name := by
  rw [Unquoted, isCode, List.all_eq_true]
  intro letter member
  rw [decide_eq_true_eq]
  rintro rfl
  exact absurd (dotted '"' member) (by decide)

theorem unquoted_of_word {name : String} (word : Naming.IsWord name) : Unquoted name :=
  unquoted_of_dotted fun letter member => by simp [isDottedLetter, word.letters letter member]

section Dissects

variable {rest code : String} {values : List String}

theorem dissects_empty : Dissects "" "" [] := by
  rw [Dissects, String.toList_empty, dissect]

theorem dissects_text {text : String} (plain : Unquoted text)
    (tail : Dissects rest code values) : Dissects (text ++ rest) (text ++ code) values := by
  rw [Dissects, String.toList_append, dissect_code plain, tail, String.toList_append]
  rfl

theorem dissects_code {letters : List Char} (plain : isCode letters = true)
    (tail : Dissects rest code values) :
    Dissects (String.ofList letters ++ rest) (String.ofList letters ++ code) values :=
  dissects_text (by rwa [Unquoted, String.toList_ofList]) tail

theorem dissects_last {letters : List Char} (plain : isCode letters = true) :
    Dissects (String.ofList letters) (String.ofList letters) [] := by
  have whole : Dissects (String.ofList letters ++ "") (String.ofList letters ++ "") [] :=
    dissects_code plain dissects_empty
  rwa [String.append_empty] at whole

theorem dissects_literal (value : String) (tail : Dissects rest code values) :
    Dissects (literal value ++ rest) (literal "" ++ code) (value :: values) := by
  rw [Dissects, String.toList_append, dissect_literal, tail, String.toList_append]
  rfl

theorem dissects_literal_last (value : String) : Dissects (literal value) (literal "") [value] := by
  have whole : Dissects (literal value ++ "") (literal "" ++ "") [value] :=
    dissects_literal value dissects_empty
  rwa [String.append_empty, String.append_empty] at whole

end Dissects

end CollectionTypes.Text.Quoted
