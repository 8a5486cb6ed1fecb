import CollectionTypes.Proofs.Json.Reading

/-!
Documents that are put together from texts: an array from the texts of its elements, an object from
the texts of its members, with blanks wherever they may stand. Each part is read as it is read
alone, in the order of the text; nothing is said about what the parts denote.
-/

namespace CollectionTypes.Json

deriving instance DecidableEq for Tree, Elements, Members

def Elements.ofList : List Tree → Elements
  | [] => .done
  | head :: tail => .more head (ofList tail)

def Members.ofList : List (Letters × Tree) → Members
  | [] => .done
  | (key, value) :: tail => .more key value (ofList tail)

namespace Tree

open Text.Decimal (isDigit)

/-- The text of a value: it is read as this tree, and only blanks follow. -/
def Shows (letters : List Char) (tree : Tree) : Prop :=
  ∃ rest, ofLetters letters = (tree, some rest) ∧ skipBlanks rest = []

def ShowsMember (letters : List Char) (member : Letters × Tree) : Prop :=
  ∃ key value, letters = key ++ ':' :: value ∧ Shows key (.text member.1) ∧ Shows value member.2

/-- Parts with commas between them, in brackets that blanks may surround. -/
def Bracketed (opening closing : Char) (parts : List (List Char)) (letters : List Char) : Prop :=
  ∃ before gap after, skipBlanks before = [] ∧ skipBlanks gap = [] ∧ skipBlanks after = [] ∧
    letters = before ++ opening :: (gap ++ ([','].intercalate parts ++ closing :: after))

def behindCommas (parts : List (List Char)) : List Char := parts.flatMap (',' :: ·)

theorem intercalate_cons (part : List Char) (parts : List (List Char)) :
    [','].intercalate (part :: parts) = part ++ behindCommas parts := by
  induction parts generalizing part with
  | nil => simp [List.intercalate, behindCommas]
  | cons next parts induction =>
      have same : [','].intercalate (part :: next :: parts) =
          part ++ ',' :: [','].intercalate (next :: parts) := by
        simp [List.intercalate, List.intersperse]
      rw [same, induction]
      rfl

section Parts

variable {fuel : Nat} {letters part more after : List Char} {tree : Tree}

/-- What a text shows is read from it wherever the text stands. -/
theorem read_of_shown (shows : Shows part tree) (enough : fuelFor part ≤ fuel)
    (closes : ClosesNumber more) :
    ∃ rest, skipBlanks rest = [] ∧ read fuel (part ++ more) = (tree, some (rest ++ more)) := by
  obtain ⟨rest, taken, blank⟩ := shows
  exact ⟨rest, blank, (extends_of_fuel _).value taken enough fun _ => closes⟩

/-- No text of a value begins like what may stand between values. -/
theorem shown_opens (shows : Shows part tree) :
    ∃ first following, skipBlanks part = first :: following ∧ first ∉ [',', ']', '\x7d'] := by
  obtain ⟨rest, taken, _⟩ := shows
  rw [ofLetters, fuelFor] at taken
  cases shown : skipBlanks part with
  | nil => exact absurd shown (value_opens taken)
  | cons first following =>
      refine ⟨first, following, rfl, fun member => ?_⟩
      rw [read, shown] at taken
      simp only [List.mem_cons, List.not_mem_nil, or_false] at member
      rcases member with rfl | rfl | rfl <;> simp [isDigit] at taken

theorem shown_length (shows : Shows part tree) : 0 < part.length := by
  obtain ⟨first, following, shown, _⟩ := shown_opens shows
  cases part with
  | nil => cases shown
  | cons => exact Nat.succ_pos _

theorem closes_of_letter {letter : Char} (other : letter ∈ [',', ']', '\x7d']) (rest : List Char) :
    ClosesNumber (letter :: rest) := by
  rintro first ⟨⟩
  simp only [List.mem_cons, List.not_mem_nil, or_false] at other
  rcases other with rfl | rfl | rfl <;> simp [isDigit]

theorem closes_behind_commas {closing : Char} (other : closing ∈ [',', ']', '\x7d'])
    (parts : List (List Char)) : ClosesNumber (behindCommas parts ++ closing :: after) := by
  cases parts with
  | nil => exact closes_of_letter other after
  | cons part parts => exact closes_of_letter (List.mem_cons_self ..) _

/-- An element and what stands behind it. -/
theorem read_element_of_shown (more : List Char) {tail : Elements} (shows : Shows part tree)
    (same : skipBlanks letters = skipBlanks (part ++ more)) (closes : ClosesNumber more)
    (enough : fuelFor part ≤ fuel)
    (others : ∀ rest, skipBlanks rest = [] →
      readElements fuel false (rest ++ more) = (tail, some after)) :
    readElement (fuel + 1) letters = (.more tree tail, some after) := by
  obtain ⟨rest, blank, taken⟩ := read_of_shown shows enough closes
  rw [← read_congr same] at taken
  exact read_element_eq_some.mpr ⟨tree, rest ++ more, tail, taken, others rest blank, rfl⟩

theorem read_other_elements {parts : List (List Char)} {trees : List Tree}
    (shows : List.Forall₂ Shows parts trees) (after : List Char) {rest : List Char}
    (blank : skipBlanks rest = [])
    (enough : 4 * (behindCommas parts ++ ']' :: after).length ≤ fuel) :
    readElements fuel false (rest ++ (behindCommas parts ++ ']' :: after)) =
      (.ofList trees, some after) := by
  induction shows generalizing fuel rest with
  | nil =>
      obtain ⟨fuel, rfl⟩ : ∃ less, fuel = less + 1 := ⟨fuel - 1, by simp at enough; omega⟩
      refine read_elements_eq_some.mpr (.inl ⟨?_, rfl⟩)
      rw [skip_blanks_of_blank blank]
      rfl
  | @cons part tree parts trees shows tail induction =>
      have text : behindCommas (part :: parts) ++ ']' :: after =
          ',' :: (part ++ (behindCommas parts ++ ']' :: after)) := by
        simp [behindCommas]
      rw [text, List.length_cons, List.length_append] at enough
      have some := shown_length shows
      obtain ⟨fuel, rfl⟩ : ∃ less, fuel = less + 2 := ⟨fuel - 2, by omega⟩
      obtain ⟨first, following, shown, other⟩ := shown_opens shows
      simp only [List.mem_cons, not_or] at other
      refine read_elements_eq_some.mpr (.inr ⟨',', part ++ (behindCommas parts ++ ']' :: after), ?_,
        by decide, .inr ⟨rfl, rfl, ?_, ?_⟩⟩)
      · rw [skip_blanks_of_blank blank, text]
        rfl
      · rw [skip_blanks_append shown]
        simp [other]
      · exact read_element_of_shown _ shows rfl (closes_behind_commas (by decide) parts)
          (by rw [fuelFor]; simp at enough; omega) fun rest blank => induction blank (by omega)

theorem read_first_elements {parts : List (List Char)} {trees : List Tree}
    (shows : List.Forall₂ Shows parts trees) (after : List Char) {gap : List Char}
    (blank : skipBlanks gap = [])
    (enough : 4 * ([','].intercalate parts ++ ']' :: after).length ≤ fuel) :
    readElements (fuel + 2) true (gap ++ ([','].intercalate parts ++ ']' :: after)) =
      (.ofList trees, some after) := by
  cases shows with
  | nil =>
      refine read_elements_eq_some.mpr (.inl ⟨?_, rfl⟩)
      rw [skip_blanks_of_blank blank]
      rfl
  | @cons part tree parts trees shows tail =>
      rw [intercalate_cons, List.append_assoc] at enough ⊢
      rw [List.length_append] at enough
      obtain ⟨first, following, shown, other⟩ := shown_opens shows
      simp only [List.mem_cons, not_or] at other
      have opens := skip_blanks_append shown (behindCommas parts ++ ']' :: after)
      refine read_elements_eq_some.mpr (.inr ⟨first, following ++ (behindCommas parts ++ ']' :: after),
        ?_, other.2.1, .inl ⟨rfl, ?_⟩⟩)
      · rw [skip_blanks_of_blank blank, opens]
      · refine read_element_of_shown (behindCommas parts ++ ']' :: after) shows
          (by rw [← opens, skip_blanks_idem])
          (closes_behind_commas (by decide) parts) (by rw [fuelFor]; simp at enough; omega) ?_
        exact fun rest blank => read_other_elements tail after blank (by omega)

theorem fuel_in_brackets (before : List Char) (opening : Char) (gap inside : List Char) :
    ∃ fuel, fuelFor (before ++ opening :: (gap ++ inside)) = fuel + 2 + 1 ∧
      4 * inside.length ≤ fuel := by
  refine ⟨fuelFor (before ++ opening :: (gap ++ inside)) - 3, ?_⟩
  simp only [fuelFor, List.length_append, List.length_cons]
  omega

theorem array_shown {parts : List (List Char)} {trees : List Tree}
    (shows : List.Forall₂ Shows parts trees) (bracketed : Bracketed '[' ']' parts letters) :
    Shows letters (.array (.ofList trees)) := by
  obtain ⟨before, gap, after, before_blank, gap_blank, after_blank, rfl⟩ := bracketed
  refine ⟨after, ?_, after_blank⟩
  obtain ⟨fuel, same, enough⟩ := fuel_in_brackets before '[' gap
    ([','].intercalate parts ++ ']' :: after)
  rw [ofLetters, same, read, skip_blanks_of_blank before_blank]
  simp [skipBlanks, read_first_elements shows after gap_blank enough]

/-- A text is the only value that begins with a quote. -/
theorem text_shown {text : Letters} (shows : Shows part (.text text)) :
    ∃ quoted rest, skipBlanks part = '"' :: quoted ∧ readString quoted = .whole text rest ∧
      skipBlanks rest = [] := by
  obtain ⟨rest, taken, blank⟩ := shows
  rw [ofLetters, fuelFor, read] at taken
  split at taken
  case h_5 quoted opens =>
    split at taken
    · rename_i string
      cases taken
      exact ⟨quoted, rest, opens, string, blank⟩
    · cases taken
  case h_2 | h_3 | h_4 =>
    rw [read.word] at taken
    split at taken <;> cases taken
  case h_8 =>
    split at taken
    · split at taken <;> cases taken
    · cases taken
  all_goals cases taken

theorem member_opens_with_quote {member : Letters × Tree} (shows : ShowsMember part member) :
    ∃ following, skipBlanks part = '"' :: following := by
  obtain ⟨key, value, rfl, named, _⟩ := shows
  obtain ⟨quoted, _, opens, _⟩ := text_shown named
  exact ⟨_, skip_blanks_append opens _⟩

/-- A member and what stands behind it. -/
theorem read_member_of_shown (more : List Char) {member : Letters × Tree} {tail : Members}
    (shows : ShowsMember part member) (closes : ClosesNumber more) (enough : fuelFor part ≤ fuel)
    (others : ∀ rest, skipBlanks rest = [] →
      readMembers fuel false (rest ++ more) = (tail, some after)) :
    readMember (fuel + 1) (skipBlanks (part ++ more)) =
      (.more member.1 member.2 tail, some after) := by
  obtain ⟨key, value, rfl, named, valued⟩ := shows
  obtain ⟨quoted, rest, opens, string, blank⟩ := text_shown named
  have large : fuelFor value ≤ fuel := by
    simp only [fuelFor, List.length_append, List.length_cons] at enough ⊢
    omega
  obtain ⟨between, between_blank, taken⟩ := read_of_shown valued large closes
  rw [List.append_assoc]
  refine read_member_eq_some.mpr ⟨_, member.1, _, value ++ more, member.2, between ++ more, tail,
    skip_blanks_append opens _, read_string_append string _, ?_, taken,
    others between between_blank, rfl⟩
  rw [skip_blanks_of_blank blank]
  rfl

theorem read_other_members {parts : List (List Char)} {members : List (Letters × Tree)}
    (shows : List.Forall₂ ShowsMember parts members) (after : List Char) {rest : List Char}
    (blank : skipBlanks rest = [])
    (enough : 4 * (behindCommas parts ++ '\x7d' :: after).length ≤ fuel) :
    readMembers fuel false (rest ++ (behindCommas parts ++ '\x7d' :: after)) =
      (.ofList members, some after) := by
  induction shows generalizing fuel rest with
  | nil =>
      obtain ⟨fuel, rfl⟩ : ∃ less, fuel = less + 1 := ⟨fuel - 1, by simp at enough; omega⟩
      refine read_members_eq_some.mpr (.inl ⟨?_, rfl⟩)
      rw [skip_blanks_of_blank blank]
      rfl
  | @cons part member parts members shows tail induction =>
      have text : behindCommas (part :: parts) ++ '\x7d' :: after =
          ',' :: (part ++ (behindCommas parts ++ '\x7d' :: after)) := by
        simp [behindCommas]
      rw [text, List.length_cons, List.length_append] at enough
      obtain ⟨fuel, rfl⟩ : ∃ less, fuel = less + 2 := ⟨fuel - 2, by omega⟩
      refine read_members_eq_some.mpr (.inr ⟨',', part ++ (behindCommas parts ++ '\x7d' :: after), ?_,
        by decide, .inr ⟨rfl, rfl, ?_⟩⟩)
      · rw [skip_blanks_of_blank blank, text]
        rfl
      · exact read_member_of_shown _ shows (closes_behind_commas (by decide) parts)
          (by rw [fuelFor]; simp at enough; omega) fun rest blank => induction blank (by omega)

theorem read_first_members {parts : List (List Char)} {members : List (Letters × Tree)}
    (shows : List.Forall₂ ShowsMember parts members) (after : List Char) {gap : List Char}
    (blank : skipBlanks gap = [])
    (enough : 4 * ([','].intercalate parts ++ '\x7d' :: after).length ≤ fuel) :
    readMembers (fuel + 2) true (gap ++ ([','].intercalate parts ++ '\x7d' :: after)) =
      (.ofList members, some after) := by
  cases shows with
  | nil =>
      refine read_members_eq_some.mpr (.inl ⟨?_, rfl⟩)
      rw [skip_blanks_of_blank blank]
      rfl
  | @cons part member parts members shows tail =>
      rw [intercalate_cons, List.append_assoc] at enough ⊢
      rw [List.length_append] at enough
      obtain ⟨following, opens⟩ := member_opens_with_quote shows
      have opens := skip_blanks_append opens (behindCommas parts ++ '\x7d' :: after)
      refine read_members_eq_some.mpr (.inr ⟨'"', _, (skip_blanks_of_blank blank _).trans opens,
        by decide, .inl ⟨rfl, ?_⟩⟩)
      rw [← opens]
      exact read_member_of_shown _ shows (closes_behind_commas (by decide) parts)
        (by rw [fuelFor]; simp at enough; omega)
        fun rest blank => read_other_members tail after blank (by omega)

theorem object_shown {parts : List (List Char)} {members : List (Letters × Tree)}
    (shows : List.Forall₂ ShowsMember parts members)
    (bracketed : Bracketed '\x7b' '\x7d' parts letters) :
    Shows letters (.object (.ofList members)) := by
  obtain ⟨before, gap, after, before_blank, gap_blank, after_blank, rfl⟩ := bracketed
  refine ⟨after, ?_, after_blank⟩
  obtain ⟨fuel, same, enough⟩ := fuel_in_brackets before '\x7b' gap
    ([','].intercalate parts ++ '\x7d' :: after)
  rw [ofLetters, same, read, skip_blanks_of_blank before_blank]
  simp [skipBlanks, read_first_members shows after gap_blank enough]

end Parts

end Tree

end CollectionTypes.Json
