import CollectionTypes.Credentials.Basic
import Mathlib.Data.List.Basic

/-!
Credentials that are put together: each part from the first source that has it, so that complete
credentials take nothing from others. Where the sources come from is no part of this.
-/

namespace CollectionTypes.Credentials

def parts : List (Credentials → String) := [host, email, password]

def firstGiven (texts : List String) : String := (texts.find? fun text => !text.isEmpty).getD ""

/-- Credentials that have each part from the first source with that part. -/
structure TakesFirst (sources : List Credentials) (credentials : Credentials) : Prop where
  first : ∀ part ∈ parts, part credentials = firstGiven (sources.map part)
  missing : ∀ part ∈ parts, part credentials = "" ↔ ∀ source ∈ sources, part source = ""

theorem first_given_cons (text : String) (texts : List String) :
    firstGiven (text :: texts) = firstNonEmpty text (firstGiven texts) := by
  unfold firstGiven firstNonEmpty
  cases empty : text.isEmpty with
  | true => rw [List.find?_cons_of_neg (by simp [empty]), if_pos rfl]
  | false => rw [List.find?_cons_of_pos (by simp [empty])]; rfl

theorem first_non_empty_eq_empty_iff {first second : String} :
    firstNonEmpty first second = "" ↔ first = "" ∧ second = "" := by
  unfold firstNonEmpty
  split
  · rename_i empty
    simp [String.isEmpty_iff.mp empty]
  · rename_i given
    simp [mt String.isEmpty_iff.mpr given]

theorem first_given_eq_empty_iff {texts : List String} :
    firstGiven texts = "" ↔ ∀ text ∈ texts, text = "" := by
  induction texts with
  | nil => simp [firstGiven]
  | cons text texts induction =>
      rw [first_given_cons, first_non_empty_eq_empty_iff, induction, List.forall_mem_cons]

theorem first_non_empty_assoc (first second third : String) :
    firstNonEmpty (firstNonEmpty first second) third =
      firstNonEmpty first (firstNonEmpty second third) := by
  by_cases empty : first.isEmpty = true <;> simp [firstNonEmpty, empty]

theorem first_non_empty_none (text : String) : firstNonEmpty text "" = text := by
  unfold firstNonEmpty
  split
  · rename_i empty
    exact (String.isEmpty_iff.mp empty).symm
  · rfl

theorem part_of_or_else (credentials other : Credentials) :
    ∀ part ∈ parts, part (credentials.orElse other) =
      firstNonEmpty (part credentials) (part other) := by
  simp [parts, orElse]

theorem takes_first_of_or_else (given kept configured : Credentials) :
    TakesFirst [given, kept, configured] ((given.orElse kept).orElse configured) := by
  have first (part : Credentials → String) (member : part ∈ parts) :
      part ((given.orElse kept).orElse configured) =
        firstGiven ([given, kept, configured].map part) := by
    rw [part_of_or_else _ _ part member, part_of_or_else _ _ part member, first_non_empty_assoc]
    simp only [List.map_cons, List.map_nil, first_given_cons]
    rw [show firstGiven [] = "" from rfl, first_non_empty_none]
  refine ⟨first, fun part member => ?_⟩
  rw [first part member, first_given_eq_empty_iff, List.forall_mem_map]

/-- Complete credentials take nothing from others. -/
theorem or_else_of_complete {given : Credentials} (complete : given.isComplete = true)
    (other : Credentials) : given.orElse other = given := by
  simp only [isComplete, Bool.and_eq_true, Bool.not_eq_true'] at complete
  obtain ⟨⟨host, email⟩, password⟩ := complete
  simp [orElse, firstNonEmpty, host, email, password]

theorem none_or_else (other : Credentials) : orElse {} other = other := rfl

end CollectionTypes.Credentials
