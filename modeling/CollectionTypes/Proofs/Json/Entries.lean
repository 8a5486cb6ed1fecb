import CollectionTypes.Json.Value
import Mathlib.Data.List.Induction
import Mathlib.Data.List.Nodup
import Mathlib.Data.String.Basic

/-!
The entries of objects, sorted by their keys. Of several entries with one key the last is kept, and
where an entry stands depends on its key alone.
-/

namespace CollectionTypes.Json

namespace Value

section Entries

variable {α : Type} {key name : String} {value : α} {entries : List (String × α)}

def sortEntries (entries : List (String × α)) : List (String × α) :=
  entries.foldl (fun sorted (key, value) => insertEntry key value sorted) []

theorem sort_entries_append (entries : List (String × α)) (key : String) (value : α) :
    sortEntries (entries ++ [(key, value)]) = insertEntry key value (sortEntries entries) := by
  rw [sortEntries, List.foldl_append]
  rfl

theorem mem_keys_of_insert : name ∈ (insertEntry key value entries).map (·.1) ↔
    name = key ∨ name ∈ entries.map (·.1) := by
  induction entries with
  | nil => simp [insertEntry]
  | cons entry entries induction =>
      obtain ⟨other, kept⟩ := entry
      rw [insertEntry]
      split
      · simp
      · split
        · rename_i same
          simp [same]
        · simp only [List.map_cons, List.mem_cons, induction]
          exact or_left_comm

theorem mem_keys_of_sort : name ∈ (sortEntries entries).map (·.1) ↔ name ∈ entries.map (·.1) := by
  induction entries using List.reverseRecOn with
  | nil => rfl
  | append_singleton entries entry induction =>
      obtain ⟨key, value⟩ := entry
      rw [sort_entries_append, mem_keys_of_insert, induction]
      simp [or_comm]

theorem insert_increasing (increasing : (entries.map (·.1)).Pairwise (· < ·)) :
    ((insertEntry key value entries).map (·.1)).Pairwise (· < ·) := by
  induction entries with
  | nil => simp [insertEntry]
  | cons entry entries induction =>
      obtain ⟨other, kept⟩ := entry
      obtain ⟨least, increasing⟩ := List.pairwise_cons.mp increasing
      rw [insertEntry]
      split
      · rename_i smaller
        refine List.pairwise_cons.mpr ⟨fun name member => ?_, List.pairwise_cons.mpr
          ⟨least, increasing⟩⟩
        rcases List.mem_cons.mp member with rfl | member
        · exact smaller
        · exact smaller.trans (least name member)
      · rename_i notSmaller
        split
        · rename_i same
          exact List.pairwise_cons.mpr ⟨same ▸ least, increasing⟩
        · rename_i apart
          refine List.pairwise_cons.mpr ⟨fun name member => ?_, induction increasing⟩
          rcases mem_keys_of_insert.mp member with rfl | member
          · exact lt_of_le_of_ne (not_lt.mp notSmaller) (Ne.symm apart)
          · exact least name member

theorem sort_increasing (entries : List (String × α)) :
    ((sortEntries entries).map (·.1)).Pairwise (· < ·) := by
  induction entries using List.reverseRecOn with
  | nil => exact .nil
  | append_singleton entries entry induction =>
      rw [sort_entries_append]
      exact insert_increasing induction

theorem entry_of_cons (entries : List (String × α)) :
    entryOf name ((key, value) :: entries) =
      if key = name then some value else entryOf name entries := by
  rw [entryOf, List.find?_cons]
  by_cases same : key = name
  · simp [same]
  · have missed : (key == name) = false := by simpa using same
    simp only [missed, if_neg same]
    rfl

theorem entry_of_append (name : String) (front back : List (String × α)) :
    entryOf name (front ++ back) = (entryOf name front).or (entryOf name back) := by
  rw [entryOf, List.find?_append, Option.map_or]
  rfl

theorem entry_of_eq_none (fresh : name ∉ entries.map (·.1)) : entryOf name entries = none := by
  rw [entryOf, Option.map_eq_none_iff, List.find?_eq_none]
  intro entry member same
  exact fresh (List.mem_map.mpr ⟨entry, member, by simpa using same⟩)

theorem entry_of_insert : entryOf name (insertEntry key value entries) =
    if key = name then some value else entryOf name entries := by
  induction entries with
  | nil => exact entry_of_cons []
  | cons entry entries induction =>
      obtain ⟨other, kept⟩ := entry
      rw [insertEntry]
      split
      · exact entry_of_cons _
      · split
        · rename_i same
          rw [entry_of_cons, entry_of_cons, same]
          split <;> rfl
        · rename_i apart
          rw [entry_of_cons, entry_of_cons, induction]
          by_cases same : other = name
          · rw [if_pos same, if_pos same, if_neg (fun own => apart (own.trans same.symm))]
          · rw [if_neg same, if_neg same]

/-- Later entries win. -/
theorem entry_of_sort (name : String) (entries : List (String × α)) :
    entryOf name (sortEntries entries) = entryOf name entries.reverse := by
  induction entries using List.reverseRecOn with
  | nil => rfl
  | append_singleton entries entry induction =>
      obtain ⟨key, value⟩ := entry
      rw [sort_entries_append, entry_of_insert, induction, List.reverse_append,
        List.reverse_singleton, List.singleton_append, entry_of_cons]

/-- An entry decides on its own key, if no later one does, and on no other. -/
theorem entry_of_middle (key : String) (value : α) (before after : List (String × α)) :
    entryOf name (before ++ (key, value) :: after).reverse =
      if key = name then (entryOf name after.reverse).or (some value)
      else entryOf name (before ++ after).reverse := by
  simp only [List.reverse_append, List.reverse_cons, entry_of_append, entry_of_cons,
    Option.or_assoc]
  split
  · simp
  · simp [entryOf]

theorem entry_of_eq_some_iff (apart : (entries.map (·.1)).Nodup) :
    entryOf key entries = some value ↔ (key, value) ∈ entries := by
  induction entries with
  | nil => simp [entryOf]
  | cons entry entries induction =>
      obtain ⟨other, kept⟩ := entry
      obtain ⟨fresh, apart⟩ := List.nodup_cons.mp apart
      rw [entry_of_cons, List.mem_cons, Prod.mk.injEq, ← induction apart]
      split
      · rename_i same
        subst same
        have missing : entryOf other entries ≠ some value := fun found =>
          fresh (List.mem_map.mpr ⟨_, (induction apart).mp found, rfl⟩)
        simp [missing, eq_comm]
      · rename_i other
        simp [Ne.symm other]

theorem mem_sort_iff : (key, value) ∈ sortEntries entries ↔
    entryOf key entries.reverse = some value := by
  rw [← entry_of_sort, entry_of_eq_some_iff ((sort_increasing entries).imp ne_of_lt)]

/-- Entries of two keys can be put in place in either order. -/
theorem insert_comm (apart : key ≠ name) (value other : α) (entries : List (String × α)) :
    insertEntry key value (insertEntry name other entries) =
      insertEntry name other (insertEntry key value entries) := by
  induction entries with
  | nil =>
      rcases lt_or_gt_of_ne apart with less | less <;>
        simp [insertEntry, less, less.not_gt, apart, apart.symm]
  | cons entry entries induction => grind [insertEntry]

/-- A key that no entry has is put in between. -/
theorem insert_fresh (fresh : key ∉ entries.map (·.1)) :
    ∃ front back, entries = front ++ back ∧
      ∀ value, insertEntry key value entries = front ++ (key, value) :: back := by
  induction entries with
  | nil => exact ⟨[], [], rfl, fun value => rfl⟩
  | cons entry entries induction =>
      obtain ⟨other, kept⟩ := entry
      simp only [List.map_cons, List.mem_cons, not_or] at fresh
      by_cases smaller : key < other
      · exact ⟨[], (other, kept) :: entries, rfl, fun value => by simp [insertEntry, smaller]⟩
      · obtain ⟨front, back, rfl, placed⟩ := induction fresh.2
        refine ⟨(other, kept) :: front, back, rfl, fun value => ?_⟩
        rw [insertEntry, if_neg smaller, if_neg fresh.1, placed]
        rfl

/-- An entry whose key no other has stands in the order of the keys, and the others as without
it. -/
theorem sort_fresh {before after : List (String × α)} (freshBefore : key ∉ before.map (·.1))
    (freshAfter : key ∉ after.map (·.1)) :
    ∃ front back, sortEntries (before ++ after) = front ++ back ∧
      ∀ value, sortEntries (before ++ (key, value) :: after) = front ++ (key, value) :: back := by
  have placed (value : α) : sortEntries (before ++ (key, value) :: after) =
      insertEntry key value (sortEntries (before ++ after)) := by
    induction after using List.reverseRecOn with
    | nil => rw [sort_entries_append, List.append_nil]
    | append_singleton after entry induction =>
        obtain ⟨name, other⟩ := entry
        simp only [List.map_append, List.mem_append, not_or, List.map_cons, List.map_nil,
          List.mem_singleton] at freshAfter
        rw [← List.cons_append, ← List.append_assoc, ← List.append_assoc, sort_entries_append,
          sort_entries_append, induction freshAfter.1, insert_comm freshAfter.2]
  have fresh : key ∉ (sortEntries (before ++ after)).map (·.1) := by
    rw [mem_keys_of_sort, List.map_append, List.mem_append, not_or]
    exact ⟨freshBefore, freshAfter⟩
  obtain ⟨front, back, same, inserted⟩ := insert_fresh fresh
  exact ⟨front, back, same, fun value => (placed value).trans (inserted value)⟩

/-! Lists of entries with the same keys in the same places. -/

def EntriesAlike (alike : String → α → α → Prop) : List (String × α) → List (String × α) → Prop :=
  List.Forall₂ fun entry entry' => entry.1 = entry'.1 ∧ alike entry.1 entry.2 entry'.2

variable {alike : String → α → α → Prop} {value' : α} {entries' : List (String × α)}

theorem keys_alike (each : EntriesAlike alike entries entries') :
    entries.map (·.1) = entries'.map (·.1) := by
  induction each with
  | nil => rfl
  | cons first _ induction => rw [List.map_cons, List.map_cons, first.1, induction]

theorem insert_alike (same : alike key value value') (each : EntriesAlike alike entries entries') :
    EntriesAlike alike (insertEntry key value entries) (insertEntry key value' entries') := by
  induction each with
  | nil => exact .cons ⟨rfl, same⟩ .nil
  | @cons entry entry' entries entries' first rest induction =>
      obtain ⟨other, _⟩ := entry
      obtain ⟨other', _⟩ := entry'
      obtain ⟨rfl, kept⟩ := first
      rw [insertEntry, insertEntry]
      split
      · exact .cons ⟨rfl, same⟩ (.cons ⟨rfl, kept⟩ rest)
      · split
        · exact .cons ⟨rfl, same⟩ rest
        · exact .cons ⟨rfl, kept⟩ induction

theorem sort_alike (each : EntriesAlike alike entries entries') :
    EntriesAlike alike (sortEntries entries) (sortEntries entries') := by
  have placed {sorted sorted' : List (String × α)} (start : EntriesAlike alike sorted sorted') :
      EntriesAlike alike
        (entries.foldl (fun sorted (key, value) => insertEntry key value sorted) sorted)
        (entries'.foldl (fun sorted (key, value) => insertEntry key value sorted) sorted') := by
    induction each generalizing sorted sorted' with
    | nil => exact start
    | @cons entry entry' entries entries' first rest induction =>
        obtain ⟨key, value⟩ := entry
        obtain ⟨key', value'⟩ := entry'
        obtain ⟨rfl, same⟩ := first
        exact induction (insert_alike same start)
  exact placed .nil

end Entries

theorem of_entries_eq (entries : List (String × Value)) :
    ofEntries entries = .object (sortEntries entries) := rfl

end Value

end CollectionTypes.Json
