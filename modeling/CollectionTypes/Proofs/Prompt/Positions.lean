import CollectionTypes.Proofs.Json.Decoder
import CollectionTypes.Proofs.Prompt.Selection
import CollectionTypes.Proofs.Text.Decimal
import Mathlib.Data.Finset.Sort

/-!
Answers as positions. Whatever is answered, the positions come in list order and lie in the list;
numbers in any order, as often as may be, give the set of their positions; and the first token that
stands for nothing is what an answer is refused for. Which collections a name stands for where
several have it is no part of this.
-/

namespace CollectionTypes.Selection

open Text.Decimal (IsNumeral)

/-! Tokens. -/

def IsNumber (token : List Char) (number : Nat) : Prop :=
  number < numberBound ∧
    (IsNumeral number token ∨ ∃ rest, token = '+' :: rest ∧ IsNumeral number rest)

/-- A number of a place in the list, or, if it is no number at all, the name of a collection. -/
def Known (collections : List Collection) (token : List Char) : Prop :=
  (∃ number, IsNumber token number ∧ 1 ≤ number ∧ number ≤ collections.length) ∨
    (¬∃ number, IsNumber token number) ∧
      ∃ collection ∈ collections, sameIgnoringAsciiCase collection.name (String.ofList token) = true

def FirstUnknown (collections : List Collection) (tokens : List (List Char)) (token : List Char) :
    Prop :=
  ∃ before after, tokens = before ++ token :: after ∧
    (∀ other ∈ before, Known collections other) ∧ ¬Known collections token

def objection (token : List Char) : SelectionError :=
  .invalid (String.ofList token)
    (if (number? token).isSome then "number out of range" else "unknown collection")

theorem number_eq_some_iff {token : List Char} {number : Nat} :
    number? token = some number ↔ IsNumber token number := by
  rw [number?, Option.filter_eq_some_iff, Text.Decimal.parse_signed_eq_some_iff, IsNumber,
    decide_eq_true_iff, and_comm]

section Tokens

variable {collections : List Collection} {token : List Char} {failure : SelectionError}

theorem position_of_number {number : Nat} (reads : IsNumber token number) (positive : 1 ≤ number)
    (within : number ≤ collections.length) : position collections token = .ok (number - 1) := by
  rw [position, number_eq_some_iff.mpr reads]
  exact if_pos ⟨positive, within⟩

theorem known_of_position {index : Nat} (found : position collections token = .ok index) :
    Known collections token := by
  rw [position] at found
  split at found
  · rename_i number reads
    split at found
    · rename_i within
      exact Or.inl ⟨number, number_eq_some_iff.mp reads, within.1, within.2⟩
    · cases found
  · rename_i noNumber
    have other : ¬∃ number, IsNumber token number := by
      rintro ⟨number, reads⟩
      rw [number_eq_some_iff.mpr reads] at noNumber
      contradiction
    split at found
    · rename_i index named
      obtain ⟨within, same, _⟩ := List.findIdx?_eq_some_iff_getElem.mp named
      exact Or.inr ⟨other, _, List.getElem_mem within, same⟩
    · cases found

theorem unknown_of_position (refused : position collections token = .error failure) :
    ¬Known collections token ∧ failure = objection token := by
  rw [position] at refused
  split at refused
  · rename_i number reads
    have own := number_eq_some_iff.mp reads
    split at refused
    · cases refused
    · rename_i outside
      cases refused
      refine ⟨?_, by simp [objection, reads]⟩
      rintro (⟨other, otherReads, within⟩ | ⟨noNumber, _⟩)
      · rw [number_eq_some_iff.mpr otherReads] at reads
        obtain rfl := Option.some.inj reads
        exact outside within
      · exact noNumber ⟨number, own⟩
  · rename_i noNumber
    split at refused
    · cases refused
    · rename_i unnamed
      cases refused
      refine ⟨?_, by simp [objection, noNumber]⟩
      rintro (⟨number, reads, _⟩ | ⟨_, collection, member, same⟩)
      · rw [number_eq_some_iff.mpr reads] at noNumber
        contradiction
      · have missed := List.findIdx?_eq_none_iff.mp unnamed collection member
        rw [missed] at same
        contradiction

end Tokens

/-! Whole answers. -/

section Answers

variable {collections : List Collection} {given : List (List Char)} {positions : List Nat}
  {failure : SelectionError} {answer : String}

theorem first_unknown_cons {first token : List Char} :
    FirstUnknown collections (first :: given) token ↔
      (¬Known collections first ∧ token = first) ∨
        (Known collections first ∧ FirstUnknown collections given token) := by
  constructor
  · rintro ⟨before, after, split, known, unknown⟩
    cases before with
    | nil =>
        obtain ⟨rfl, rfl⟩ := List.cons.inj split
        exact Or.inl ⟨unknown, rfl⟩
    | cons other before =>
        obtain ⟨rfl, rfl⟩ := List.cons.inj split
        obtain ⟨own, others⟩ := List.forall_mem_cons.mp known
        exact Or.inr ⟨own, before, after, rfl, others, unknown⟩
  · rintro (⟨unknown, rfl⟩ | ⟨own, before, after, rfl, known, unknown⟩)
    · exact ⟨[], given, rfl, by simp, unknown⟩
    · exact ⟨first :: before, after, rfl, List.forall_mem_cons.mpr ⟨own, known⟩, unknown⟩

/-- Tokens are looked at in their order, up to the first that stands for nothing. -/
theorem positions_refused_iff : given.mapM (position collections) = .error failure ↔
    ∃ token, FirstUnknown collections given token ∧ failure = objection token := by
  induction given with
  | nil => simp [FirstUnknown, pure, Except.pure]
  | cons first rest induction =>
      simp only [first_unknown_cons, List.mapM_cons]
      cases placed : position collections first with
      | error refused =>
          obtain ⟨unknown, rfl⟩ := unknown_of_position placed
          simp [unknown, bind, Except.bind, eq_comm]
      | ok index =>
          have known := known_of_position placed
          simp only [known, not_true_eq_false, false_and, true_and, false_or, ← induction]
          cases rest.mapM (position collections) <;> simp [bind, Except.bind, pure, Except.pure]

theorem in_order_pairwise (count : Nat) (chosen : Nat → Bool) :
    (inOrder count chosen).Pairwise (· < ·) :=
  List.pairwise_lt_range.filter chosen

theorem in_order_within {count index : Nat} {chosen : Nat → Bool}
    (member : index ∈ inOrder count chosen) : index < count :=
  List.mem_range.mp (List.mem_filter.mp member).1

theorem every_in_order (count : Nat) : List.range count = inOrder count fun _ => true := by
  rw [inOrder, List.filter_true]

def IsChoice (answer : String) : Prop :=
  Text.trim answer ≠ "" ∧ asciiLower (Text.trim answer) ≠ "all"

theorem parse_of_choice (choice : IsChoice answer) : parse answer collections =
    ((tokens (Text.trim answer).toList).mapM (position collections)).map
      fun positions => inOrder collections.length positions.contains := by
  have notEmpty : (Text.trim answer).isEmpty = false :=
    String.isEmpty_eq_false_iff.mpr choice.1
  have notAll : sameIgnoringAsciiCase (Text.trim answer) "all" = false :=
    eq_false_of_ne_true fun all => choice.2 (same_ignoring_case_iff.mp all)
  simp only [parse, notEmpty, notAll, Bool.false_eq_true, if_false]
  cases (tokens (Text.trim answer).toList).mapM (position collections) <;> rfl

theorem in_order_of_parse (parsed : parse answer collections = .ok positions) :
    ∃ chosen, positions = inOrder collections.length chosen := by
  by_cases empty : Text.trim answer = ""
  · simp only [parse, empty] at parsed
    cases parsed
    exact ⟨_, rfl⟩
  by_cases all : asciiLower (Text.trim answer) = "all"
  · have notEmpty : (Text.trim answer).isEmpty = false := String.isEmpty_eq_false_iff.mpr empty
    have same : sameIgnoringAsciiCase (Text.trim answer) "all" = true :=
      same_ignoring_case_iff.mpr all
    simp only [parse, notEmpty, same] at parsed
    cases parsed
    exact ⟨_, every_in_order _⟩
  · rw [parse_of_choice ⟨empty, all⟩] at parsed
    cases found : (tokens (Text.trim answer).toList).mapM (position collections) with
    | error failure =>
        rw [found] at parsed
        cases parsed
    | ok places =>
        rw [found] at parsed
        cases parsed
        exact ⟨_, rfl⟩

theorem ascending_of_parse (parsed : parse answer collections = .ok positions) :
    positions.Pairwise (· < ·) ∧ ∀ position ∈ positions, position < collections.length := by
  obtain ⟨chosen, rfl⟩ := in_order_of_parse parsed
  exact ⟨in_order_pairwise _ chosen, fun position => in_order_within⟩

/-- Positions within a list leave nothing out. -/
theorem items_of_positions (within : ∀ position ∈ positions, position < collections.length) :
    (positions.filterMap (collections[·]?)).map some = positions.map (collections[·]?) := by
  induction positions with
  | nil => rfl
  | cons first rest induction =>
      obtain ⟨own, others⟩ := List.forall_mem_cons.mp within
      rw [List.filterMap_cons, List.map_cons, List.getElem?_eq_getElem own, List.map_cons,
        induction others]

theorem items_of_pick {items : List Collection} (picked : pick answer collections = .ok items) :
    ∃ positions, parse answer collections = .ok positions ∧
      items.map some = positions.map (collections[·]?) := by
  rw [pick] at picked
  cases parsed : parse answer collections with
  | error failure =>
      rw [parsed] at picked
      cases picked
  | ok positions =>
      rw [parsed] at picked
      cases picked
      exact ⟨positions, rfl, items_of_positions (ascending_of_parse parsed).2⟩

theorem pick_of_choose {items : List Collection} {terminal : Terminal}
    (chosen : (choose collections terminal).1 = .ok items) :
    ∃ answer, pick answer collections = .ok items := by
  rw [choose] at chosen
  cases read : (terminal.write (question collections)).input with
  | nil =>
      simp only [read] at chosen
      exact ⟨"", chosen⟩
  | cons line rest =>
      cases line with
      | none => simp [read] at chosen
      | some letters =>
          simp only [read] at chosen
          exact ⟨String.ofList letters, chosen⟩

theorem first_unknown_iff : (∃ token, FirstUnknown collections given token) ↔
    ∃ token ∈ given, ¬Known collections token := by
  induction given with
  | nil => simp [FirstUnknown]
  | cons first rest induction =>
      simp only [first_unknown_cons, exists_or, exists_and_left, induction, List.mem_cons,
        exists_eq_or_imp]
      by_cases known : Known collections first <;> simp [known]

theorem parse_refused_iff (choice : IsChoice answer) : parse answer collections = .error failure ↔
    ∃ token, FirstUnknown collections (tokens (Text.trim answer).toList) token ∧
      failure = objection token := by
  rw [parse_of_choice choice, ← positions_refused_iff]
  cases (tokens (Text.trim answer).toList).mapM (position collections) <;> simp [Except.map]

end Answers

/-! Numbers. -/

section Numbers

variable {collections : List Collection} {numbers : List Nat} {numerals : List String}
  {answer : String}

def Numerals (numbers : List Nat) (numerals : List String) : Prop :=
  List.Forall₂ (fun number numeral => IsNumeral number numeral.toList) numbers numerals

def GivesNumbers (numbers : List Nat) (answer : String) : Prop :=
  ∃ numerals, Numerals numbers numerals ∧ Answers numerals answer

theorem plain_of_numeral {number : Nat} {numeral : String}
    (own : IsNumeral number numeral.toList) : IsPlainName numeral := by
  obtain ⟨some, shown⟩ := Text.Decimal.numeral_digits own
  refine ⟨fun empty => some (by rw [empty]; rfl), fun letter member => ?_⟩
  have small : letter.toNat < 128 := by
    have bound := of_decide_eq_true (Bool.and_eq_true_iff.mp (shown letter member)).2
    exact Nat.lt_of_le_of_lt bound (by decide)
  exact Text.of_ascii (fun letter => Text.Decimal.isDigit letter = true → isPlain letter = true)
    (by decide +kernel) small (shown letter member)

/-- A numeral is not the word for all. -/
theorem numeral_not_all {number : Nat} {numeral : String}
    (own : IsNumeral number numeral.toList) : asciiLower numeral ≠ "all" := by
  intro all
  obtain ⟨some, shown⟩ := Text.Decimal.numeral_digits own
  have same : numeral.toList.map Char.toLower = numeral.toList :=
    (List.map_congr_left fun letter member => Text.digit_lower (shown letter member)).trans
      (List.map_id _)
  have letters : numeral.toList = "all".toList := by
    rw [← all, asciiLower, String.toList_ofList, same]
  have first := shown 'a' (by rw [letters]; decide)
  contradiction

theorem positions_of_numerals (small : collections.length < numberBound)
    (given : Numerals numbers numerals)
    (within : ∀ number ∈ numbers, 1 ≤ number ∧ number ≤ collections.length) :
    (numerals.map String.toList).mapM (position collections) = .ok (numbers.map (· - 1)) := by
  induction given with
  | nil => rfl
  | cons own others induction =>
      obtain ⟨first, rest⟩ := List.forall_mem_cons.mp within
      have reads : IsNumber _ _ := ⟨Nat.lt_of_le_of_lt first.2 small, Or.inl own⟩
      rw [List.map_cons, List.mapM_cons, position_of_number reads first.1 first.2,
        induction rest]
      rfl

theorem in_order_eq_sort {count : Nat} {positions : List Nat}
    (within : ∀ position ∈ positions, position < count) :
    inOrder count positions.contains = positions.toFinset.sort (· ≤ ·) := by
  have ascending := in_order_pairwise count positions.contains
  have same : (inOrder count positions.contains).toFinset = positions.toFinset := by
    ext position
    simp only [List.mem_toFinset, inOrder, List.mem_filter, List.mem_range, List.contains_iff_mem]
    exact and_iff_right_of_imp (within position)
  rw [← same]
  exact (List.toFinset_sort _ (ascending.imp Nat.ne_of_lt)).mpr (ascending.imp Nat.le_of_lt) |>.symm

theorem numeral_of_given (given : Numerals numbers numerals) :
    ∀ numeral ∈ numerals, ∃ number, IsNumeral number numeral.toList := by
  induction given with
  | nil => simp
  | cons own others induction => exact List.forall_mem_cons.mpr ⟨⟨_, own⟩, induction⟩

theorem parse_of_numbers (small : collections.length < numberBound)
    (within : ∀ number ∈ numbers, 1 ≤ number ∧ number ≤ collections.length)
    (gives : GivesNumbers numbers answer) :
    parse answer collections = .ok ((numbers.map (· - 1)).toFinset.sort (· ≤ ·)) := by
  obtain ⟨numerals, given, answers⟩ := gives
  have own := numeral_of_given given
  have plain (numeral : String) (member : numeral ∈ numerals) : IsPlainName numeral :=
    plain_of_numeral (own numeral member).choose_spec
  have row := row_of_answers answers plain
  have choice : IsChoice answer := by
    refine ⟨mt String.toList_eq_nil_iff.mpr (shown_ends_of_row row plain).1, fun all => ?_⟩
    obtain ⟨numeral, rfl, same⟩ := List.map_eq_singleton_iff.mp (names_of_all row plain all)
    obtain ⟨number, numeralOf⟩ := own numeral (List.mem_singleton_self numeral)
    exact numeral_not_all numeralOf same
  have places : ∀ position ∈ numbers.map (· - 1), position < collections.length := by
    intro position member
    obtain ⟨number, given, rfl⟩ := List.mem_map.mp member
    have bounds := within number given
    omega
  rw [parse_of_choice choice, tokens_of_row row plain, positions_of_numerals small given within,
    ← in_order_eq_sort places]
  rfl

end Numbers

structure TakesAnswers (collections : List Collection) : Prop where
  /-- In list order, none twice, and none beyond the list. -/
  ascending : ∀ answer positions, parse answer collections = .ok positions →
    positions.Pairwise (· < ·) ∧ ∀ position ∈ positions, position < collections.length
  /-- What is chosen in the end are the collections at such positions, and all of them. -/
  chosen : ∀ terminal items, (choose collections terminal).1 = .ok items →
    ∃ answer positions, parse answer collections = .ok positions ∧
      items.map some = positions.map (collections[·]?)
  /-- The places of a list are numbers of 64 bits. -/
  numbers : collections.length < numberBound → ∀ numbers answer,
    (∀ number ∈ numbers, 1 ≤ number ∧ number ≤ collections.length) →
    GivesNumbers numbers answer →
    parse answer collections = .ok ((numbers.map (· - 1)).toFinset.sort (· ≤ ·))
  refused : ∀ answer, IsChoice answer →
    ((∃ failure, parse answer collections = .error failure) ↔
      ∃ token ∈ tokens (Text.trim answer).toList, ¬Known collections token)
  /-- The first token that stands for nothing is the one that is named. -/
  named : ∀ answer failure, IsChoice answer →
    (parse answer collections = .error failure ↔
      ∃ token, FirstUnknown collections (tokens (Text.trim answer).toList) token ∧
        failure = objection token)

/-- Answers are taken in this way, whatever the collections are. -/
theorem answers_taken (collections : List Collection) : TakesAnswers collections where
  ascending _ _ := ascending_of_parse
  chosen _ _ picked := by
    obtain ⟨answer, picked⟩ := pick_of_choose picked
    exact ⟨answer, items_of_pick picked⟩
  numbers small _ _ within gives := parse_of_numbers small within gives
  refused answer choice := by
    simp only [parse_refused_iff choice, ← first_unknown_iff]
    exact ⟨fun ⟨_, token, first, _⟩ => ⟨token, first⟩, fun ⟨token, first⟩ => ⟨_, token, first, rfl⟩⟩
  named _ _ := parse_refused_iff

/-- Repeated numbers in another order, one of them with a zero in front; and a number beyond the
list, which is named although a name that nobody has follows. -/
theorem answers_taken_repeated :
    parse " 3,1 , 03\n" [users, posts, tags] = .ok [0, 2] ∧
      parse "tags +2,4 nobody" [users, posts, tags] =
        .error (.invalid "4" "number out of range") := by
  have taken := answers_taken [users, posts, tags]
  have row : Row ["3", "1", "03"] "3,1 , 03".toList :=
    .next "3" (List.cons_ne_nil ',' []) (by simp)
      (.next "1" (List.cons_ne_nil ' ' [',', ' ']) (by simp) (.last "03"))
  have numerals : Numerals [3, 1, 3] ["3", "1", "03"] :=
    .cons ⟨0, by decide +kernel⟩ (.cons ⟨0, by decide +kernel⟩ (.cons ⟨1, by decide +kernel⟩ .nil))
  have gives : GivesNumbers [3, 1, 3] " 3,1 , 03\n" :=
    ⟨_, numerals, [' '], _, ['\n'], row, by decide +kernel, List.all_eq_true.mp (by decide +kernel)⟩
  have read := taken.numbers (by decide +kernel) [3, 1, 3] " 3,1 , 03\n" (by decide) gives
  have sorted : ([3, 1, 3].map (· - 1)).toFinset.sort (· ≤ ·) = [0, 2] :=
    (congrArg (Finset.sort · (· ≤ ·)) (by decide)).trans
      ((List.toFinset_sort _ (by decide)).mpr (by decide))
  have tagsPlaced : position [users, posts, tags] "tags".toList = .ok 2 := by decide +kernel
  have twoPlaced : position [users, posts, tags] "+2".toList = .ok 1 := by decide +kernel
  have fourRefused : position [users, posts, tags] "4".toList =
      .error (.invalid "4" "number out of range") := by decide +kernel
  have known : ∀ token ∈ ["tags".toList, "+2".toList], Known [users, posts, tags] token := by
    simp only [List.forall_mem_cons]
    exact ⟨known_of_position tagsPlaced, known_of_position twoPlaced, by simp⟩
  have choice : IsChoice "tags +2,4 nobody" := by
    unfold IsChoice
    decide +kernel
  have named := (taken.named "tags +2,4 nobody" _ choice).mpr
    ⟨"4".toList, ⟨["tags".toList, "+2".toList], ["nobody".toList], by decide +kernel, known,
      (unknown_of_position fourRefused).1⟩, rfl⟩
  exact ⟨read.trans (congrArg _ sorted), named.trans (by decide +kernel)⟩

end CollectionTypes.Selection
