import CollectionTypes.Json.Decoder
import Mathlib.Algebra.Group.Nat.Defs
import Mathlib.Data.List.Forall2
import Mathlib.Data.List.Induction

/-!
What the decoders take from lists and records. A record is put together entry by entry, and of each
part it keeps what the last entry of its key says. Of the decoder in text order this says only that
counts have 32 bits, and that a record has whatever the assignment of each field preserves.
-/

namespace CollectionTypes.Json

namespace Value

/-- The entries of a record: those of an object, or the elements of an array under the fields in
their order. -/
def entriesAs (fields : List String) : Value → List (String × Value)
  | .object entries => entries
  | .array elements => fields.zip elements
  | _ => []

/-- What a record holds under a key, `null` if nothing. Later entries win, as for the decoder. -/
def part (fields : List String) (record : Value) (key : String) : Value :=
  (entryOf key (record.entriesAs fields).reverse).getD .null

def elements : Value → List Value
  | .array elements => elements
  | _ => []

end Value

namespace Decoder

theorem bind_eq_ok {ε α β : Type} {read : Except ε α} {next : α → Except ε β} {result : β} :
    (read >>= next) = .ok result ↔ ∃ value, read = .ok value ∧ next value = .ok result := by
  cases read <;> simp [bind, Except.bind]

theorem ok_of_map_error {ε ε' α : Type} {read : Except ε α} {describe : ε → ε'} {result : α}
    (accepted : read.mapError describe = .ok result) : read = .ok result := by
  cases read with
  | error fault => cases accepted
  | ok value =>
      cases accepted
      rfl

/-- A list is taken if each of its elements is. -/
theorem map_eq_ok {ε α β : Type} {read : α → Except ε β} {sources : List α} {results : List β} :
    sources.mapM read = .ok results ↔
      List.Forall₂ (fun source result => read source = .ok result) sources results := by
  induction sources generalizing results with
  | nil => cases results <;> simp [pure, Except.pure]
  | cons source sources induction =>
      rw [List.mapM_cons, bind_eq_ok]
      simp only [bind_eq_ok, induction, List.forall₂_cons_left_iff, pure, Except.pure,
        Except.ok.injEq]
      exact ⟨fun ⟨result, first, others, rest, same⟩ => ⟨result, others, first, rest, same.symm⟩,
        fun ⟨result, others, first, rest, same⟩ => ⟨result, first, others, rest, same.symm⟩⟩

theorem list_eq_ok {α : Type} {read : Value → Except Fault α} {values : List Value}
    {items : List α} : sorted.list read (.array values) = .ok items ↔
      List.Forall₂ (fun value item => read value = .ok item) values items :=
  map_eq_ok

theorem elements_of_default_list {α : Type} {read : Value → Except Fault α} {source : Value}
    {items : List α} (taken : sorted.orDefault [] (sorted.list read) source = .ok items) :
    List.Forall₂ (fun value item => read value = .ok item) source.elements items := by
  cases source with
  | null =>
      cases taken
      exact .nil
  | array values => exact list_eq_ok.mp taken
  | flag | number | text | object => cases taken

section Records

variable {α β : Type} {record : Record Value α} {start built placed : α}
variable {key : String} {value : Value} {entries : List (String × Value)}

theorem assign_entries_append (front back : List (String × Value)) :
    Sorted.assignEntries record start (front ++ back) =
      Sorted.assignEntries record start front >>= (Sorted.assignEntries record · back) :=
  List.foldlM_append ..

theorem assign_entries_cons (known : record.fields.contains key = true) :
    Sorted.assignEntries record start ((key, value) :: entries) =
      record.assign key value start >>= (Sorted.assignEntries record · entries) := by
  rw [Sorted.assignEntries, List.foldlM_cons]
  simp only [known, if_true]
  rfl

theorem assign_entries_unknown (unknown : ¬record.fields.contains key = true) :
    Sorted.assignEntries record start ((key, value) :: entries) =
      Sorted.assignEntries record start entries := by
  rw [Sorted.assignEntries, List.foldlM_cons]
  simp only [unknown]
  rfl

/-- One entry of a known key is put in place, and then the others are. -/
theorem assign_entry (known : record.fields.contains key = true)
    (assigned : record.assign key value start = .ok placed)
    (rest : Sorted.assignEntries record placed entries = .ok built) :
    Sorted.assignEntries record start ((key, value) :: entries) = .ok built := by
  rw [assign_entries_cons known, assigned]
  exact rest

theorem record_of_entries
    (assigned : Sorted.assignEntries record record.start entries = .ok built)
    (complete : firstMissing record (entries.map (·.1)) = none) :
    sorted.record record (.object entries) = .ok built := by
  change Sorted.record record (.object entries) = .ok built
  rw [Sorted.record, assigned]
  simp only [bind, Except.bind, complete]

/-- The elements of an array are put in place as entries of the fields they stand for. -/
theorem entries_of_elements {fields : List String} {values : List Value} {position : Nat}
    (known : ∀ field ∈ fields, record.fields.contains field = true)
    (assigned : Sorted.assignElements record start position fields values = .ok built) :
    Sorted.assignEntries record start (fields.zip values) = .ok built := by
  induction fields generalizing start position values with
  | nil =>
      cases values with
      | nil => exact assigned
      | cons value values => cases assigned
  | cons field fields induction =>
      cases values with
      | nil =>
          obtain ⟨_, _, same⟩ := bind_eq_ok.mp assigned
          exact same
      | cons value values =>
          obtain ⟨placed, first, rest⟩ := bind_eq_ok.mp assigned
          exact assign_entry (known field (List.mem_cons_self ..)) first
            (induction (fun other member => known other (List.mem_cons_of_mem _ member)) rest)

theorem entries_of_record {source : Value} (accepted : sorted.record record source = .ok built) :
    Sorted.assignEntries record record.start (source.entriesAs record.fields) = .ok built := by
  cases source with
  | object entries =>
      obtain ⟨assigned, put, complete⟩ := bind_eq_ok.mp accepted
      split at complete
      · cases complete
      · cases complete
        exact put
  | array elements =>
      exact entries_of_elements (fun field member => by simpa using member) accepted
  | null | flag | number | text => cases accepted

/-- A part that only one key sets is what the last entry of that key is read as. By induction on the
entries from the last one back. -/
theorem part_of_entries {part : α → β} {read : Value → Except Fault β}
    (known : record.fields.contains key = true)
    (own : ∀ value built placed, record.assign key value built = .ok placed →
      read value = .ok (part placed))
    (others : ∀ name value built placed, name ≠ key →
      record.assign name value built = .ok placed → part placed = part built)
    (fallback : read .null = .ok (part start))
    (assigned : Sorted.assignEntries record start entries = .ok built) :
    read ((Value.entryOf key entries.reverse).getD .null) = .ok (part built) := by
  induction entries using List.reverseRecOn generalizing built with
  | nil =>
      cases assigned
      exact fallback
  | append_singleton entries entry induction =>
      obtain ⟨name, value⟩ := entry
      rw [Sorted.assignEntries, List.foldlM_append] at assigned
      obtain ⟨before, earlier, last⟩ := bind_eq_ok.mp assigned
      have kept := induction earlier
      simp only [List.foldlM_cons, List.foldlM_nil, bind_pure] at last
      rw [List.reverse_append, List.reverse_singleton, List.singleton_append, Value.entryOf,
        List.find?_cons]
      by_cases same : name = key
      · subst same
        rw [if_pos known] at last
        simpa using own value before built last
      · have missed : (name == key) = false := by simpa using same
        have unchanged : part built = part before := by
          split at last
          · exact others name value before built same last
          · cases last
            rfl
        rw [missed, unchanged]
        exact kept

theorem part_of_record (part : α → β) {read : Value → Except Fault β} {source : Value}
    (known : record.fields.contains key = true)
    (own : ∀ value built placed, record.assign key value built = .ok placed →
      read value = .ok (part placed))
    (others : ∀ name value built placed, name ≠ key →
      record.assign name value built = .ok placed → part placed = part built)
    (fallback : read .null = .ok (part record.start))
    (accepted : sorted.record record source = .ok built) :
    read (source.part record.fields key) = .ok (part built) :=
  part_of_entries known own others fallback (entries_of_record accepted)

end Records

theorem count_of_number {wanted : String} {number : Number} {count : Nat}
    (taken : countOfNumber wanted number = .ok count) : count < 2 ^ 32 := by
  unfold countOfNumber at taken
  split at taken
  · rename_i value
    split at taken
    · rename_i within
      simp only [Bool.and_eq_true, decide_eq_true_eq] at within
      cases taken
      have bound : value < ((2 ^ 32 : Nat) : Int) := within.2
      omega
    · cases taken
  · cases taken

theorem count_of_default {source : Tree} {count : Nat}
    (taken : textual.orDefault 0 textual.count source = .ok count) : count < 2 ^ 32 := by
  cases source with
  | null =>
      cases taken
      exact Nat.two_pow_pos 32
  | number numeral =>
      have read : Textual.count (.number numeral) = .ok count := taken
      rw [Textual.count] at read
      split at read
      · exact count_of_number read
      · cases read
  | flag | text | array | object | broken => cases taken

section TextOrder

variable {α : Type} {record : Record Tree α} {holds : α → Prop} {start built : α}

theorem members_keep
    (assigned : ∀ key source before after, holds before →
      record.assign key source before = .ok after → holds after) :
    ∀ {members : Members} {seen : List String} {start : α}, holds start →
      Textual.assignMembers record seen start members = .ok built → holds built
  | .done, seen, start, kept, accepted => by
      rw [Textual.assignMembers] at accepted
      split at accepted
      · cases accepted
      · cases accepted
        exact kept
  | .cut _, _, _, _, accepted => by cases accepted
  | .cutKey _ _, _, _, _, accepted => by cases accepted
  | .more key value rest, seen, start, kept, accepted => by
      rw [Textual.assignMembers] at accepted
      obtain ⟨name, _, accepted⟩ := bind_eq_ok.mp accepted
      split at accepted
      · split at accepted
        · cases accepted
        · obtain ⟨placed, put, accepted⟩ := bind_eq_ok.mp accepted
          exact members_keep assigned (assigned name value start placed kept put) accepted
      · obtain ⟨_, _, accepted⟩ := bind_eq_ok.mp accepted
        exact members_keep assigned kept accepted

theorem elements_keep
    (assigned : ∀ key source before after, holds before →
      record.assign key source before = .ok after → holds after)
    {fields : List String} {trees : Elements} {position : Nat} (kept : holds start)
    (accepted : Textual.assignElements record start position fields trees = .ok built) :
    holds built := by
  induction fields generalizing start trees position with
  | nil =>
      cases trees with
      | done =>
          obtain ⟨_, _, same⟩ := bind_eq_ok.mp accepted
          cases same
          exact kept
      | cut | more => cases accepted
  | cons field fields induction =>
      cases trees with
      | done =>
          obtain ⟨_, _, same⟩ := bind_eq_ok.mp accepted
          cases same
          exact kept
      | cut => cases accepted
      | more head tail =>
          obtain ⟨placed, put, rest⟩ := bind_eq_ok.mp accepted
          exact induction (assigned field head start placed kept put) rest

/-- A record has what the start has and the assignment of each field preserves. -/
theorem textual_record_keeps (holds : α → Prop) {source : Tree} (begins : holds record.start)
    (assigned : ∀ key source before after, holds before →
      record.assign key source before = .ok after → holds after)
    (accepted : textual.record record source = .ok built) : holds built := by
  cases source with
  | object members => exact members_keep assigned begins accepted
  | array trees => exact elements_keep assigned begins accepted
  | null | flag | number | text | broken => cases accepted

end TextOrder

end Decoder

end CollectionTypes.Json
