import CollectionTypes.Prompt.Selection
import CollectionTypes.Proofs.Selection.Names
import CollectionTypes.Proofs.Text.Blank
import CollectionTypes.Proofs.Text.Pieces
import Mathlib.Data.List.Induction

/-!
Choosing by hand, which goes with choosing by rule. No answer, the word for all, and the names of
collections select what the rules with these words select. A name that reads as a number counts as
one, so it has to be the number of its own place. Answers with other numbers, and lists in which two
names differ in nothing but letter case, are no part of this.
-/

namespace CollectionTypes.Selection

/-! Positions. -/

/-- Positions in list order give back a part of the list. -/
theorem collections_in_order (collections : List Collection) {chosen : Nat → Bool}
    {accepted : Collection → Bool}
    (agree : ∀ index collection, collections[index]? = some collection →
      chosen index = accepted collection) :
    (inOrder collections.length chosen).filterMap (collections[·]?) =
      collections.filter accepted := by
  -- From the end: a longer list has the positions of its beginning, and one more.
  induction collections using List.reverseRecOn with
  | nil => rfl
  | append_singleton earlier last induction =>
      have before : (inOrder earlier.length chosen).filterMap ((earlier ++ [last])[·]?) =
          (inOrder earlier.length chosen).filterMap (earlier[·]?) := by
        refine List.filterMap_congr fun index member => ?_
        have within := List.mem_range.mp (List.mem_filter.mp member).1
        exact List.getElem?_append_left within
      have earlierAgree (index : Nat) (collection : Collection)
          (found : earlier[index]? = some collection) : chosen index = accepted collection := by
        obtain ⟨within, _⟩ := List.getElem?_eq_some_iff.mp found
        exact agree index collection (by rwa [List.getElem?_append_left within])
      have lastAgrees := agree earlier.length last List.getElem?_concat_length
      rw [List.length_append, List.length_singleton, inOrder, List.range_succ, List.filter_append,
        List.filterMap_append, List.filter_append, ← inOrder, before, induction earlierAgree]
      congr 1
      rw [List.filter_singleton, List.filter_singleton, lastAgrees]
      cases accepted last with
      | false => rfl
      | true => simp

section Positions

variable {collections : List Collection} {collection other : Collection} {index place : Nat}
  {name : String}

theorem same_index (listable : Listable collections)
    (found : collections[index]? = some collection)
    (foundOther : collections[place]? = some other)
    (same : lowerName collection = lowerName other) : index = place := by
  have within : index < (collections.map lowerName).length := by
    rw [List.length_map]
    exact (List.getElem?_eq_some_iff.mp found).1
  refine (List.getElem?_inj within listable.distinct).mp ?_
  rw [List.getElem?_map, List.getElem?_map, found, foundOther, Option.map_some, Option.map_some,
    same]

/-- A name that reads as a number is the number of its own place. -/
def OwnNumber (collections : List Collection) (collection : Collection) : Prop :=
  ∀ number ∈ number? collection.name.toList,
    0 < number ∧ collections[number - 1]? = some collection

theorem number_of_same (same : asciiLower name = asciiLower collection.name) :
    number? name.toList = number? collection.name.toList := by
  rw [number?, number?, ← Text.parse_signed_lower, ascii_lower_eq_iff.mp same,
    Text.parse_signed_lower]

theorem position_of_name (listable : Listable collections)
    (found : collections[index]? = some collection)
    (same : asciiLower name = lowerName collection) (own : OwnNumber collections collection) :
    position collections name.toList = .ok index := by
  have bound := (List.getElem?_eq_some_iff.mp found).1
  rw [position, number_of_same same]
  cases reads : number? collection.name.toList with
  | some number =>
      obtain ⟨positive, there⟩ := own number reads
      have here : index = number - 1 := same_index listable found there rfl
      have within : 1 ≤ number ∧ number ≤ collections.length := by omega
      simp only [if_pos within, here]
  | none =>
      have first : positionOfName? collections (String.ofList name.toList) = some index := by
        rw [positionOfName?, String.ofList_toList]
        refine List.findIdx?_eq_some_iff_getElem.mpr ⟨bound, ?_, fun place before matched => ?_⟩
        · rw [List.getElem_eq_iff bound |>.mpr found]
          exact same_ignoring_case_iff.mpr same.symm
        · have earlier : collections[place]? = some collections[place] :=
            List.getElem?_eq_getElem (Nat.lt_trans before bound)
          have twins : lowerName collections[place] = lowerName collection :=
            (same_ignoring_case_iff.mp matched).trans same
          exact absurd (same_index listable earlier found twins) (Nat.ne_of_lt before)
      simp only [first]

variable {chosen : List Collection} {names : List String}

/-- Every name of a chosen collection is found, and the positions are those of these collections. -/
theorem positions_of_names (listable : Listable collections) (within : chosen ⊆ collections)
    (own : ∀ collection ∈ chosen, OwnNumber collections collection)
    (known : ∀ name ∈ names, asciiLower name ∈ chosen.map lowerName) :
    ∃ positions, (names.map String.toList).mapM (position collections) = .ok positions ∧
      ∀ index collection, collections[index]? = some collection →
        (index ∈ positions ↔ lowerName collection ∈ names.map asciiLower) := by
  induction names with
  | nil => exact ⟨[], rfl, by simp⟩
  | cons name rest induction =>
      obtain ⟨first, others⟩ := List.forall_mem_cons.mp known
      obtain ⟨positions, made, positionsIff⟩ := induction others
      obtain ⟨named, inChosen, same⟩ := List.mem_map.mp first
      obtain ⟨place, there⟩ := List.mem_iff_getElem?.mp (within inChosen)
      have found := position_of_name listable there same.symm (own named inChosen)
      refine ⟨place :: positions, ?_, fun index collection here => ?_⟩
      · rw [List.map_cons, List.mapM_cons, found, made]
        rfl
      · have firstIff : index = place ↔ lowerName collection = asciiLower name := by
          constructor
          · rintro rfl
            obtain rfl : collection = named := Option.some.inj (here.symm.trans there)
            exact same
          · exact fun twins => same_index listable here there (twins.trans same.symm)
        rw [List.mem_cons, List.map_cons, List.mem_cons, firstIff,
          positionsIff index collection here]

end Positions

/-! Answers. -/

inductive Row : List String → List Char → Prop
  | last (name : String) : Row [name] name.toList
  | next (name : String) {names : List String} {gap rest : List Char} (some : gap ≠ [])
      (apart : ∀ letter ∈ gap, letter = ',' ∨ letter = ' ') (following : Row names rest) :
      Row (name :: names) (name.toList ++ (gap ++ rest))

def Answers (names : List String) (answer : String) : Prop :=
  ∃ before text after, Row names text ∧ answer.toList = before ++ (text ++ after) ∧
    ∀ letter ∈ before ++ after, Text.isBlank letter = true

section Rows

variable {names : List String} {name answer : String} {text : List Char}

theorem no_separator_of_plain (plain : IsPlainName name) :
    ∀ letter ∈ name.toList, isSeparator letter = false := by
  intro letter member
  obtain ⟨_, noComma, shown⟩ := plain_iff.mp (plain.2 letter member)
  have noSpace : letter ≠ ' ' := by
    rintro rfl
    contradiction
  simp [isSeparator, noComma, noSpace]

theorem tokens_single (some : text ≠ [])
    (clean : ∀ letter ∈ text, isSeparator letter = false) : tokens text = [text] := by
  rw [tokens, Text.pieces_of_no_separator clean]
  simp [some]

theorem tokens_after_separators {gap : List Char}
    (apart : ∀ letter ∈ gap, letter = ',' ∨ letter = ' ') (rest : List Char) :
    tokens (gap ++ rest) = tokens rest := by
  induction gap with
  | nil => rfl
  | cons letter gap induction =>
      obtain ⟨first, others⟩ := List.forall_mem_cons.mp apart
      have separates : isSeparator letter = true := by simpa [isSeparator] using first
      rw [← induction others, List.cons_append, tokens, Text.pieces, if_pos separates]
      rfl

theorem tokens_of_row (row : Row names text) (plain : ∀ name ∈ names, IsPlainName name) :
    tokens text = names.map String.toList := by
  induction row with
  | last name =>
      have named := plain name (List.mem_singleton_self name)
      exact tokens_single named.letters (no_separator_of_plain named)
  | next name some apart following induction =>
      rename_i names gap rest
      obtain ⟨named, others⟩ := List.forall_mem_cons.mp plain
      obtain ⟨mark, gap, rfl⟩ := List.exists_cons_of_ne_nil some
      have separates : isSeparator mark = true := by
        simpa [isSeparator] using apart mark (List.mem_cons_self ..)
      have behind : tokens (gap ++ rest) = tokens rest :=
        tokens_after_separators (fun letter member => apart letter (List.mem_cons_of_mem _ member))
          rest
      rw [List.cons_append, tokens,
        Text.pieces_append_separator (no_separator_of_plain named) mark separates,
        List.filter_cons_of_pos (by simp [named.letters]), ← tokens, behind, induction others]
      rfl

/-- A row begins and ends with a name. -/
theorem shown_ends_of_row (row : Row names text) (plain : ∀ name ∈ names, IsPlainName name) :
    text ≠ [] ∧ (∀ letter ∈ text.head?, Text.isBlank letter = false) ∧
      ∀ letter ∈ text.getLast?, Text.isBlank letter = false := by
  induction row with
  | last name =>
      have named := plain name (List.mem_singleton_self name)
      exact ⟨named.letters, fun letter first => named.shown (List.mem_of_head? first),
        fun letter last => named.shown (List.mem_of_getLast? last)⟩
  | next name some apart following induction =>
      obtain ⟨named, others⟩ := List.forall_mem_cons.mp plain
      obtain ⟨someRest, _, closes⟩ := induction others
      refine ⟨List.append_ne_nil_of_left_ne_nil named.letters _, fun letter first => ?_,
        fun letter last => ?_⟩
      · rw [List.head?_append_of_ne_nil _ named.letters] at first
        exact named.shown (List.mem_of_head? first)
      · rw [← List.append_assoc, List.getLast?_append_of_ne_nil _ someRest] at last
        exact closes letter last

theorem row_of_answers (answers : Answers names answer)
    (plain : ∀ name ∈ names, IsPlainName name) : Row names (Text.trim answer).toList := by
  obtain ⟨before, text, after, row, same, blank⟩ := answers
  obtain ⟨beforeBlank, afterBlank⟩ := List.forall_mem_append.mp blank
  obtain ⟨some, opens, closes⟩ := shown_ends_of_row row plain
  rwa [Text.trim, same, String.toList_ofList,
    Text.trim_letters_between beforeBlank afterBlank some opens closes]

/-- Only a single name looks like the word for all. -/
theorem names_of_all (row : Row names answer.toList) (plain : ∀ name ∈ names, IsPlainName name)
    (all : asciiLower answer = "all") : names.map asciiLower = ["all"] := by
  have letters : answer.toList.map Char.toLower = "all".toList := by
    rw [← all, asciiLower, String.toList_ofList]
  have trait := Text.same_in_lower_case isSeparator (by decide +kernel)
  have clean : ∀ letter ∈ answer.toList, isSeparator letter = false := by
    intro letter member
    have lower : letter.toLower ∈ "all".toList := letters ▸ List.mem_map_of_mem member
    have closed : "all".toList.any isSeparator = false := by decide
    rw [← trait letter]
    exact eq_false_of_ne_true (List.any_eq_false.mp closed _ lower)
  have single := (tokens_of_row row plain).symm.trans
    (tokens_single (shown_ends_of_row row plain).1 clean)
  obtain ⟨name, rfl, same⟩ := List.map_eq_singleton_iff.mp single
  rw [List.map_singleton, String.toList_inj.mp same, all]

end Rows

section Picks

variable {collections chosen : List Collection} {names : List String} {answer : String}

theorem pick_of_empty (empty : Text.trim answer = "") :
    pick answer collections = .ok (SelectionPolicy.select {} collections) := by
  have parsed : parse answer collections = .ok (preselected collections) := by
    simp only [parse, empty]
    rfl
  rw [pick, parsed]
  refine congrArg Except.ok (collections_in_order collections fun index collection found => ?_)
  rw [found]
  cases collection.system <;> simp [SelectionPolicy.accepts, SelectionPolicy.mentions]

theorem pick_of_all (all : asciiLower (Text.trim answer) = "all") :
    pick answer collections = .ok (SelectionPolicy.select { all := true } collections) := by
  have notEmpty : (Text.trim answer).isEmpty = false := by
    rw [String.isEmpty_eq_false_iff]
    intro empty
    rw [empty] at all
    contradiction
  have every : List.range collections.length = inOrder collections.length fun _ => true := by
    rw [inOrder, List.filter_true]
  have same : sameIgnoringAsciiCase (Text.trim answer) "all" = true :=
    same_ignoring_case_iff.mpr all
  have parsed : parse answer collections = .ok (List.range collections.length) := by
    simp only [parse, notEmpty, same]
    rfl
  rw [pick, parsed, every]
  refine congrArg Except.ok (collections_in_order collections fun index collection _ => ?_)
  simp [SelectionPolicy.accepts, SelectionPolicy.mentions]

theorem pick_of_names (listable : Listable collections) (within : chosen ⊆ collections)
    (own : ∀ collection ∈ chosen, OwnNumber collections collection)
    (naming : NamesOf chosen names) (answers : Answers names answer)
    (notAll : names.map asciiLower ≠ ["all"]) :
    pick answer collections = .ok (collections.filter (· ∈ chosen)) := by
  have plain (name : String) (member : name ∈ names) : IsPlainName name :=
    naming.plain listable within member
  have row := row_of_answers answers plain
  obtain ⟨positions, made, positionsIff⟩ := positions_of_names listable within own
    fun name member => (naming _).mp (List.mem_map_of_mem member)
  have parsed : parse answer collections =
      .ok (inOrder collections.length positions.contains) := by
    have notEmpty : (Text.trim answer).isEmpty = false := by
      rw [String.isEmpty_eq_false_iff]
      exact mt String.toList_eq_nil_iff.mpr (shown_ends_of_row row plain).1
    have other : sameIgnoringAsciiCase (Text.trim answer) "all" = false :=
      eq_false_of_ne_true fun all =>
        notAll (names_of_all row plain (same_ignoring_case_iff.mp all))
    simp only [parse, notEmpty, other, tokens_of_row row plain, made]
    rfl
  rw [pick, parsed]
  refine congrArg Except.ok (collections_in_order collections fun index collection found => ?_)
  rw [Bool.eq_iff_iff, List.contains_iff_mem, positionsIff index collection found,
    decide_eq_true_iff]
  exact naming.mem_iff listable within (List.mem_of_getElem? found)

end Picks

structure AgreesWithRules (collections : List Collection) : Prop where
  nothing : ∀ answer, Text.trim answer = "" →
    pick answer collections = .ok (SelectionPolicy.select {} collections)
  all : ∀ answer, asciiLower (Text.trim answer) = "all" →
    pick answer collections = .ok (SelectionPolicy.select { all := true } collections)
  /-- The names of some collections select these collections, in list order, like a rule that
  includes the names. -/
  names : Listable collections → ∀ chosen names answer (policy : SelectionPolicy),
    chosen ⊆ collections → chosen ≠ [] →
    (∀ collection ∈ chosen, OwnNumber collections collection) →
    NamesOf chosen names → Answers names answer → names.map asciiLower ≠ ["all"] →
    NamesOf chosen policy.includes → policy.excludes = [] →
    pick answer collections = .ok (policy.select collections) ∧
      policy.select collections = collections.filter (· ∈ chosen)

/-- Answers and rules agree, whatever the collections are. -/
theorem answers_agree_with_rules (collections : List Collection) : AgreesWithRules collections where
  nothing _ := pick_of_empty
  all _ := pick_of_all
  names listable chosen names answer policy within some own naming answers notAll included
      noExcludes := by
    have ruled := SelectionPolicy.select_of_names listable within some included noExcludes
    have picked := pick_of_names listable within own naming answers notAll
    exact ⟨picked.trans (congrArg Except.ok ruled.symm), ruled⟩

def users : Collection := { id := "u", name := "users", system := true }

def two : Collection := { id := "n", name := "2" }

def posts : Collection := { id := "p", name := "Posts" }

def tags : Collection := { id := "t", name := "tags" }

/-- Three of four names in another order and letter case, one of them a number. -/
theorem answers_agree_with_rules_mixed :
    let rule : SelectionPolicy := { includes := ["users", "2", "posts"] }
    pick " POSTS, 2  Users\n" [users, two, posts, tags] =
        .ok (rule.select [users, two, posts, tags]) ∧
      rule.select [users, two, posts, tags] = [users, two, posts] := by
  intro rule
  have listable : Listable [users, two, posts, tags] := ⟨by decide +kernel, by decide +kernel⟩
  have own : ∀ collection ∈ [posts, two, users],
      OwnNumber [users, two, posts, tags] collection := by
    unfold OwnNumber
    decide +kernel
  have row : Row ["POSTS", "2", "Users"] "POSTS, 2  Users".toList :=
    .next "POSTS" (List.cons_ne_nil ',' [' ']) (by simp)
      (.next "2" (List.cons_ne_nil ' ' [' ']) (by simp) (.last "Users"))
  have answers : Answers ["POSTS", "2", "Users"] " POSTS, 2  Users\n" :=
    ⟨[' '], _, ['\n'], row, by decide +kernel, List.all_eq_true.mp (by decide +kernel)⟩
  obtain ⟨agree, ruled⟩ := (answers_agree_with_rules [users, two, posts, tags]).names listable
    [posts, two, users] ["POSTS", "2", "Users"] " POSTS, 2  Users\n" rule (by decide +kernel)
    (List.cons_ne_nil _ _) own (fun word => Iff.of_eq (congrArg (word ∈ ·) (by decide +kernel)))
    answers (by decide +kernel) (fun word => (by decide +kernel : List.Perm _ _).mem_iff) rfl
  exact ⟨agree, ruled.trans (by decide +kernel)⟩

/-- Where the name does not stand second, the number stands for another collection. -/
theorem number_taken_for_position :
    Listable [two, posts] ∧ NamesOf [two] ["2"] ∧ Answers ["2"] "2" ∧
      ["2"].map asciiLower ≠ ["all"] ∧
      pick "2" [two, posts] = .ok [posts] ∧
      SelectionPolicy.select { includes := ["2"] } [two, posts] = [two] := by
  have listable : Listable [two, posts] := ⟨by decide +kernel, by decide +kernel⟩
  have named : NamesOf [two] ["2"] := fun word =>
    Iff.of_eq (congrArg (word ∈ ·) (by decide +kernel))
  have answers : Answers ["2"] "2" := ⟨[], _, [], .last "2", rfl, by simp⟩
  exact ⟨listable, named, answers, by decide +kernel, by decide +kernel, by decide +kernel⟩

end CollectionTypes.Selection
