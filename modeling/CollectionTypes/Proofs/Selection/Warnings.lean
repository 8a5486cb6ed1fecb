import CollectionTypes.Proofs.Selection.Names

/-!
Warnings about included names that no collection has. A name stands for a collection whatever the
case of its letters, but the warnings know small and capital letters of ASCII only: a name is
reported if it stands for no collection, and also if all that it stands for are written with other
letters beyond ASCII. Rules that exclude names play no part in warnings.
-/

namespace CollectionTypes.SelectionPolicy

def lettersBeyondAscii (name : String) : List (Option Char) := name.toList.map Text.beyondAscii

section Warnings

variable {policy : SelectionPolicy} {collections : List Collection} {name other : String}

theorem missing_message_inj : missingMessage name = missingMessage other ↔ name = other := by
  have cancel (before after : String) :
      before ++ name ++ after = before ++ other ++ after ↔ name = other := by
    rw [String.append_left_inj, String.append_right_inj]
  unfold missingMessage
  exact cancel _ _

theorem mentions_single : mentions [name] other = true ↔
    Text.lowerFrom [] name.toList = Text.lowerFrom [] other.toList := by
  simp [mentions, Text.sameIgnoringCase, Text.lowercase, String.ofList_inj]

/-- The names that a warning takes for the same. -/
theorem same_ignoring_ascii_case_iff : sameIgnoringAsciiCase other name = true ↔
    mentions [name] other = true ∧ lettersBeyondAscii other = lettersBeyondAscii name := by
  rw [same_ignoring_case_iff, ascii_lower_eq_iff, Text.ascii_lower_eq_iff_letters, mentions_single]
  exact and_congr_left fun _ => eq_comm

/-- A name is reported if and only if it is included and every collection it stands for, if any, is
written with other letters beyond ASCII. -/
theorem missing_warned_iff (policy : SelectionPolicy) (collections : List Collection)
    (name : String) :
    missingMessage name ∈ policy.warnings collections ↔
      name ∈ policy.includes ∧ ∀ collection ∈ collections,
        mentions [name] collection.name = true →
          lettersBeyondAscii collection.name ≠ lettersBeyondAscii name := by
  have warned : missingMessage name ∈ policy.warnings collections ↔
      name ∈ policy.missing collections := by
    rw [warnings, List.mem_map]
    simp only [missing_message_inj, exists_eq_right]
  rw [warned, missing, List.mem_filter, Bool.not_eq_true', List.any_eq_false]
  simp only [same_ignoring_ascii_case_iff, not_and]

end Warnings

theorem selected_name_reported :
    let policy : SelectionPolicy := { includes := ["ÉCOLE"] }
    let school : Collection := { id := "1", name := "école" }
    policy.select [school] = [school] ∧ mentions ["ÉCOLE"] school.name = true ∧
      missingMessage "ÉCOLE" ∈ policy.warnings [school] := by
  decide +kernel

end CollectionTypes.SelectionPolicy
