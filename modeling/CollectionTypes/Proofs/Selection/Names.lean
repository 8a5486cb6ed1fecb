import CollectionTypes.Proofs.Text.Lowercase
import CollectionTypes.Selection.Policy
import CollectionTypes.Text.Basic
import Mathlib.Data.List.Nodup

/-!
Collections that their names tell apart, whatever the letter case, and the rule that includes the
names of some of them: it selects these. Names in other scripts, and rules that exclude names, are
no part of this.
-/

namespace CollectionTypes

theorem same_ignoring_case_iff {left right : String} :
    sameIgnoringAsciiCase left right = true ↔ asciiLower left = asciiLower right :=
  beq_iff_eq

theorem ascii_lower_eq_iff {left right : String} :
    asciiLower left = asciiLower right ↔
      left.toList.map Char.toLower = right.toList.map Char.toLower := by
  rw [asciiLower, asciiLower, String.ofList_inj]

def isPlain (letter : Char) : Bool := letter.toNat < 128 && letter ≠ ',' && !Text.isBlank letter

def IsPlainName (name : String) : Prop :=
  name ≠ "" ∧ ∀ letter ∈ name.toList, isPlain letter = true

instance : DecidablePred IsPlainName := fun name =>
  decidable_of_iff (name ≠ "" ∧ name.toList.all isPlain = true)
    (and_congr_right fun _ => List.all_eq_true)

def lowerName (collection : Collection) : String := asciiLower collection.name

/-- Collections that can be told apart by plain names, whatever their letter case. -/
structure Listable (collections : List Collection) : Prop where
  plain : ∀ collection ∈ collections, IsPlainName collection.name
  distinct : (collections.map lowerName).Nodup

/-- The names of some collections, in any order and letter case, and each as often as may be. -/
def NamesOf (chosen : List Collection) (names : List String) : Prop :=
  ∀ word, word ∈ names.map asciiLower ↔ word ∈ chosen.map lowerName

section Names

theorem plain_iff {letter : Char} :
    isPlain letter = true ↔ letter.toNat < 128 ∧ letter ≠ ',' ∧ Text.isBlank letter = false := by
  simp [isPlain, and_assoc]

variable {collections chosen : List Collection} {collection : Collection} {names : List String}
  {name other : String}

theorem plain_of_same (same : asciiLower name = asciiLower other) (plain : IsPlainName other) :
    IsPlainName name := by
  have letters := ascii_lower_eq_iff.mp same
  obtain ⟨some, plainLetters⟩ := plain
  constructor
  · rintro rfl
    have none : other.toList = [] := List.map_eq_nil_iff.mp letters.symm
    exact some (String.toList_eq_nil_iff.mp none)
  · intro letter member
    have lower : letter.toLower ∈ other.toList.map Char.toLower :=
      letters ▸ List.mem_map_of_mem member
    obtain ⟨twin, twinMember, twins⟩ := List.mem_map.mp lower
    have trait := Text.same_in_lower_case isPlain (by decide +kernel)
    rw [← trait letter, ← twins, trait twin]
    exact plainLetters twin twinMember

theorem IsPlainName.letters (plain : IsPlainName name) : name.toList ≠ [] :=
  mt String.toList_eq_nil_iff.mp plain.1

theorem IsPlainName.shown (plain : IsPlainName name) {letter : Char}
    (member : letter ∈ name.toList) : Text.isBlank letter = false :=
  (plain_iff.mp (plain.2 letter member)).2.2

theorem lowercase_of_plain (plain : IsPlainName name) : Text.lowercase name = asciiLower name := by
  rw [Text.lowercase, asciiLower,
    Text.lower_from_of_ascii fun letter member => (plain_iff.mp (plain.2 letter member)).1]

theorem NamesOf.plain (listable : Listable collections) (within : chosen ⊆ collections)
    (naming : NamesOf chosen names) (member : name ∈ names) : IsPlainName name := by
  obtain ⟨collection, inChosen, same⟩ :=
    List.mem_map.mp ((naming _).mp (List.mem_map_of_mem member))
  exact plain_of_same same.symm (listable.plain collection (within inChosen))

/-- A name tells a chosen collection from the others. -/
theorem NamesOf.mem_iff (listable : Listable collections) (within : chosen ⊆ collections)
    (naming : NamesOf chosen names) (member : collection ∈ collections) :
    lowerName collection ∈ names.map asciiLower ↔ collection ∈ chosen := by
  rw [naming, List.mem_map]
  constructor
  · rintro ⟨other, inChosen, same⟩
    rwa [← List.inj_on_of_nodup_map listable.distinct (within inChosen) member same]
  · exact fun inChosen => ⟨collection, inChosen, rfl⟩

end Names

namespace SelectionPolicy

section Rules

variable {collections chosen : List Collection} {policy : SelectionPolicy} {names : List String}
  {name : String}

theorem mentions_iff (plain : ∀ other ∈ names, IsPlainName other) (plainName : IsPlainName name) :
    mentions names name = true ↔ asciiLower name ∈ names.map asciiLower := by
  simp only [mentions, List.any_eq_true, List.mem_map, Text.sameIgnoringCase, beq_iff_eq]
  refine exists_congr fun other => and_congr_right fun member => ?_
  rw [lowercase_of_plain (plain other member), lowercase_of_plain plainName]

/-- A rule that includes the names of some collections selects these. -/
theorem select_of_names (listable : Listable collections) (within : chosen ⊆ collections)
    (some : chosen ≠ []) (included : NamesOf chosen policy.includes)
    (noExcludes : policy.excludes = []) :
    policy.select collections = collections.filter (· ∈ chosen) := by
  refine List.filter_congr fun collection member => ?_
  have mentioned : mentions policy.includes collection.name = decide (collection ∈ chosen) := by
    rw [Bool.eq_iff_iff, decide_eq_true_iff, ← included.mem_iff listable within member]
    exact mentions_iff (fun other => included.plain listable within)
      (listable.plain collection member)
  have someIncluded : policy.includes.isEmpty = false := by
    obtain ⟨first, rest, rfl⟩ := List.exists_cons_of_ne_nil some
    have named := (included (lowerName first)).mpr (List.mem_map_of_mem (List.mem_cons_self ..))
    obtain ⟨other, member, _⟩ := List.mem_map.mp named
    exact List.isEmpty_eq_false_iff_exists_mem.mpr ⟨other, member⟩
  rw [accepts, mentioned, someIncluded, noExcludes]
  cases decide (collection ∈ chosen) <;> simp [mentions]

end Rules

end SelectionPolicy

end CollectionTypes
