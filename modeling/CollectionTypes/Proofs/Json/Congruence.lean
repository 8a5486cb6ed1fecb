import CollectionTypes.Proofs.Json.Decoder
import CollectionTypes.Proofs.Json.Entries
import Mathlib.Data.List.Find

/-!
Records that are taken alike, with the same faults in the same order. An entry may be exchanged for
one that is put in place alike, and an entry that changes nothing may be left out, since what the
entries before it have put in place stands for other keys. This is about checked values only.
-/

namespace CollectionTypes.Json

inductive InOne {α : Type} (alike : α → α → Prop) : List α → List α → Prop
  | intro (front back : List α) {value value' : α} (same : alike value value') :
      InOne alike (front ++ value :: back) (front ++ value' :: back)

theorem Value.entries_alike_of_in_one {α : Type} {alike : String → α → α → Prop}
    {differ : α → α → Prop} {key : String} {entries entries' : List (String × α)}
    (unchanged : ∀ name value, alike name value value)
    (changed : ∀ value value', differ value value' → alike key value value')
    (one : InOne (fun entry entry' => entry.1 = key ∧ entry'.1 = key ∧ differ entry.2 entry'.2)
      entries entries') : EntriesAlike alike entries entries' := by
  have same (entries : List (String × α)) : EntriesAlike alike entries entries :=
    List.forall₂_same.mpr fun entry _ => ⟨rfl, unchanged entry.1 entry.2⟩
  obtain ⟨front, back, rfl, named, differs⟩ := one
  exact List.rel_append (same front) (.cons ⟨named.symm, changed _ _ differs⟩ (same back))

namespace Decoder

section Records

variable {α : Type} {record : Record Value α} {key : String} {value : Value}
variable {entries entries' before after : List (String × Value)}

/-- Records are taken alike if each entry is put in place alike. -/
theorem record_congr (each : Value.EntriesAlike
      (fun key value value' => record.assign key value = record.assign key value')
      entries entries') :
    sorted.record record (.object entries) = sorted.record record (.object entries') := by
  have assigned (start : α) : Sorted.assignEntries record start entries =
      Sorted.assignEntries record start entries' := by
    induction each generalizing start with
    | nil => rfl
    | @cons entry entry' entries entries' first rest induction =>
        obtain ⟨key, value⟩ := entry
        obtain ⟨key', value'⟩ := entry'
        obtain ⟨rfl, same⟩ := first
        by_cases known : record.fields.contains key = true
        · rw [assign_entries_cons known, assign_entries_cons known, same]
          exact bind_congr induction
        · rw [assign_entries_unknown known, assign_entries_unknown known]
          exact induction start
  change Sorted.record record (.object entries) = Sorted.record record (.object entries')
  rw [Sorted.record, Sorted.record, assigned, Value.keys_alike each]

/-- Records that are written as arrays are taken alike if they differ in one element, and it is put
in place alike under every key. -/
theorem elements_in_one {alike : Value → Value → Prop} {values values' : List Value}
    (same : ∀ value value', alike value value' →
      ∀ key, record.assign key value = record.assign key value')
    (one : InOne alike values values') :
    sorted.record record (.array values) = sorted.record record (.array values') := by
  obtain ⟨values, valuesAfter, alike⟩ := one
  rename_i value value'
  have same := same value value' alike
  have placed (start : α) (position : Nat) (fields : List String) :
      Sorted.assignElements record start position fields (values ++ value :: valuesAfter) =
        Sorted.assignElements record start position fields (values ++ value' :: valuesAfter) := by
    induction values generalizing start position fields with
    | nil =>
        cases fields with
        | nil => rfl
        | cons field fields =>
            rw [List.nil_append, List.nil_append, Sorted.assignElements, Sorted.assignElements, same]
    | cons first values induction =>
        cases fields with
        | nil => simp [Sorted.assignElements]
        | cons field fields =>
            rw [List.cons_append, List.cons_append, Sorted.assignElements, Sorted.assignElements]
            exact bind_congr fun built => induction built (position + 1) fields
  exact placed record.start 0 record.fields

/-- To put this value under the key changes nothing as long as nothing else has been put there. -/
structure Idle (record : Record Value α) (key : String) (value : Value) : Prop where
  start : record.assign key value record.start = .ok record.start
  kept : ∀ name source built placed, name ≠ key → record.assign name source built = .ok placed →
    record.assign key value built = .ok built → record.assign key value placed = .ok placed

theorem Idle.of_same {other : Value} (idle : Idle record key value)
    (same : record.assign key other = record.assign key value) : Idle record key other where
  start := by rw [same]; exact idle.start
  kept := by rw [same]; exact idle.kept

theorem idle_after (idle : Idle record key value) (fresh : key ∉ entries.map (·.1))
    {start built : α} (own : record.assign key value start = .ok start)
    (assigned : Sorted.assignEntries record start entries = .ok built) :
    record.assign key value built = .ok built := by
  induction entries generalizing start with
  | nil =>
      cases assigned
      exact own
  | cons entry entries induction =>
      obtain ⟨name, source⟩ := entry
      simp only [List.map_cons, List.mem_cons, not_or] at fresh
      by_cases known : record.fields.contains name = true
      · rw [assign_entries_cons known] at assigned
        obtain ⟨placed, first, rest⟩ := bind_eq_ok.mp assigned
        exact induction fresh.2
          (idle.kept name source start placed (Ne.symm fresh.1) first own) rest
      · rw [assign_entries_unknown known] at assigned
        exact induction fresh.2 own assigned

/-- What is required is missing whether or not another key is there. -/
theorem first_missing_middle (optional : key ∉ record.required) (front back : List String) :
    firstMissing record (front ++ key :: back) = firstMissing record (front ++ back) := by
  refine List.find?_congr fun name member => ?_
  have other : name ≠ key := fun same => optional (same ▸ member)
  simp [other]

/-- An entry that is idle need not be there. -/
theorem record_without_idle (idle : Idle record key value) (optional : key ∉ record.required)
    (freshBefore : key ∉ before.map (·.1)) (freshAfter : key ∉ after.map (·.1)) :
    sorted.record record (.ofEntries (before ++ (key, value) :: after)) =
      sorted.record record (.ofEntries (before ++ after)) := by
  obtain ⟨front, back, same, placed⟩ := Value.sort_fresh (α := Value) freshBefore freshAfter
  have fresh : key ∉ front.map (·.1) := by
    intro member
    have named : key ∈ (Value.sortEntries (before ++ after)).map (·.1) := by
      rw [same, List.map_append]
      exact List.mem_append_left _ member
    rw [Value.mem_keys_of_sort, List.map_append, List.mem_append] at named
    exact named.elim freshBefore freshAfter
  have assigned : Sorted.assignEntries record record.start (front ++ (key, value) :: back) =
      Sorted.assignEntries record record.start (front ++ back) := by
    rw [assign_entries_append, assign_entries_append]
    cases first : Sorted.assignEntries record record.start front with
    | error fault => rfl
    | ok built =>
        change Sorted.assignEntries record built ((key, value) :: back) =
          Sorted.assignEntries record built back
        by_cases known : record.fields.contains key = true
        · rw [assign_entries_cons known, idle_after idle fresh idle.start first]
          rfl
        · rw [assign_entries_unknown known]
  rw [Value.of_entries_eq, Value.of_entries_eq, same, placed]
  change Sorted.record record (.object (front ++ (key, value) :: back)) =
    Sorted.record record (.object (front ++ back))
  rw [Sorted.record, Sorted.record, assigned, List.map_append, List.map_append, List.map_cons,
    first_missing_middle optional]

/-- Keys that may be left out, with what stands for them then: `null` and the default are put in
place alike, and change nothing. -/
structure Optional (record : Record Value α) (optional : List (String × Value)) : Prop where
  allowed : ∀ key ∈ optional.map (·.1), key ∉ record.required
  idle : ∀ key ∈ optional.map (·.1), Idle record key .null
  standard : ∀ key standard, (key, standard) ∈ optional →
    record.assign key standard = record.assign key .null

theorem Optional.unseen {optional : List (String × Value)} (table : Optional record optional)
    {standard : Value} (known : (key, standard) ∈ optional)
    (freshBefore : key ∉ before.map (·.1)) (freshAfter : key ∉ after.map (·.1))
    (form : value = .null ∨ value = standard) :
    sorted.record record (.ofEntries (before ++ (key, value) :: after)) =
      sorted.record record (.ofEntries (before ++ after)) := by
  have member := List.mem_map_of_mem (f := (·.1)) known
  refine record_without_idle ?_ (table.allowed key member) freshBefore freshAfter
  rcases form with rfl | rfl
  · exact table.idle key member
  · exact (table.idle key member).of_same (table.standard key value known)

/-- Objects that differ in the value of one entry are taken alike if it is put in place alike. -/
theorem record_in_one {alike : Value → Value → Prop}
    (same : ∀ value value', alike value value' → record.assign key value = record.assign key value')
    (one : InOne (fun entry entry' => entry.1 = key ∧ entry'.1 = key ∧ alike entry.2 entry'.2)
      entries entries') :
    sorted.record record (.ofEntries entries) = sorted.record record (.ofEntries entries') := by
  refine record_congr (Value.sort_alike ?_)
  exact Value.entries_alike_of_in_one (fun _ _ => rfl) same one

end Records

end Decoder

end CollectionTypes.Json
