import CollectionTypes.Collection.Document
import CollectionTypes.Proofs.Json.Decoder
import CollectionTypes.Proofs.Json.Entries
import CollectionTypes.Proofs.Json.Spelled

/-!
The two shapes of a document. A listing whose items are an array says of the collections what the
array says alone, whatever else the listing holds; a counter of its pages has to be one, though, as
nothing is taken from a listing in which it is not. Listings in replies are read in text order and
are no part of this.
-/

namespace CollectionTypes

open Json (Decoder Fault Value)
open Json.Tree (Bracketed Shows Spells SpellsMember)

namespace Listing

def counters : List String := ["page", "perPage", "totalItems", "totalPages"]

def IsCounter (value : Value) : Prop :=
  value = .null ∨ ∃ count : Nat, count < 2 ^ 32 ∧ value = .number (.integer count)

def sortedRecord : Json.Record Value Listing :=
  ⟨"CollectionsResponse", keys, [], {}, assign .sorted⟩

theorem count_of_counter {value : Value} (counter : IsCounter value) :
    ∃ count, Decoder.sorted.orDefault 0 Decoder.sorted.count value = .ok count := by
  rcases counter with rfl | ⟨count, small, rfl⟩
  · exact ⟨0, rfl⟩
  · refine ⟨count, ?_⟩
    simp [Decoder.orDefault, Decoder.sorted, Decoder.Sorted.count, Decoder.countOfNumber]
    omega

/-- A counter that is one is put in place, and the items are left as they are. -/
theorem assign_counter {key : String} {value : Value} (other : key ≠ "items")
    (counted : key ∈ counters → IsCounter value) (listing : Listing) :
    ∃ placed, assign .sorted key value listing = .ok placed ∧ placed.items = listing.items := by
  by_cases known : key ∈ counters
  · obtain ⟨count, taken⟩ := count_of_counter (counted known)
    simp only [counters, List.mem_cons, List.not_mem_nil, or_false] at known
    rcases known with rfl | rfl | rfl | rfl <;>
      (rw [assign, taken]; exact ⟨_, rfl, rfl⟩)
  · refine ⟨listing, ?_, rfl⟩
    simp only [counters, List.mem_cons, List.not_mem_nil, or_false, not_or] at known
    rw [assign] <;> simp [known, other]

theorem assign_counters {entries : List (String × Value)} (other : "items" ∉ entries.map (·.1))
    (counted : ∀ entry ∈ entries, entry.1 ∈ counters → IsCounter entry.2) (start : Listing) :
    ∃ built, Decoder.Sorted.assignEntries sortedRecord start entries = .ok built ∧
      built.items = start.items := by
  induction entries generalizing start with
  | nil => exact ⟨start, rfl, rfl⟩
  | cons entry entries induction =>
      obtain ⟨key, value⟩ := entry
      simp only [List.map_cons, List.mem_cons, not_or] at other
      have rest := induction other.2 fun entry member => counted entry (List.mem_cons_of_mem _ member)
      by_cases known : keys.contains key = true
      · obtain ⟨placed, assigned, kept⟩ :=
          assign_counter (Ne.symm other.1) (counted _ (List.mem_cons_self ..)) start
        obtain ⟨built, others, same⟩ := rest placed
        exact ⟨built, Decoder.assign_entry known assigned others, same.trans kept⟩
      · rw [Decoder.assign_entries_unknown known]
        exact rest start

/-- The one entry of the items is all that is taken from a listing, and all that can be wrong with
it. -/
theorem items_of_listing {entries : List (String × Value)} {elements : List Value}
    (apart : (entries.map (·.1)).Nodup) (items : ("items", .array elements) ∈ entries)
    (counted : ∀ entry ∈ entries, entry.1 ∈ counters → IsCounter entry.2) :
    (read .sorted (.object entries)).map (·.items) =
      Decoder.sorted.list (Collection.read .sorted) (.array elements) := by
  obtain ⟨front, back, rfl⟩ := List.append_of_mem items
  rw [List.map_append, List.map_cons, List.nodup_middle, List.nodup_cons, List.mem_append,
    not_or] at apart
  obtain ⟨before, first, empty⟩ := assign_counters apart.1.1
    (fun entry member => counted entry (List.mem_append_left _ member)) {}
  have last := assign_counters apart.1.2 fun entry member =>
    counted entry (List.mem_append_right _ (List.mem_cons_of_mem _ member))
  have whole : read .sorted (.object (front ++ ("items", .array elements) :: back)) =
      Decoder.Sorted.assignEntries sortedRecord {} (front ++ ("items", .array elements) :: back) :=
    bind_pure _
  have remaining : read .sorted (.object (front ++ ("items", .array elements) :: back)) =
      Decoder.Sorted.assignEntries sortedRecord before (("items", .array elements) :: back) := by
    rw [whole, Decoder.assign_entries_append, first]
    rfl
  have placed : sortedRecord.assign "items" (.array elements) before =
      Decoder.sorted.list (Collection.read .sorted) (.array elements) >>=
        fun items => .ok { before with items := items } := rfl
  rw [remaining, Decoder.assign_entries_cons rfl, placed]
  cases Decoder.sorted.list (Collection.read .sorted) (.array elements) with
  | error fault => rfl
  | ok collections =>
      obtain ⟨built, others, same⟩ := last { before with items := collections }
      simp only [bind, Except.bind, others]
      exact congrArg Except.ok same

end Listing

namespace Document

/-- The text of a listing around the text of its items: each of the other members is the text of an
entry, the last items are these, and the counters of pages are counters. -/
structure Envelope (items object : List Char) where
  before : List (List Char)
  key : List Char
  after : List (List Char)
  entriesBefore : List (String × Value)
  entriesAfter : List (String × Value)
  bracketed : Bracketed '\x7b' '\x7d' (before ++ (key ++ ':' :: items) :: after) object
  named : Shows key (.text (.ok "items"))
  spelledBefore : List.Forall₂ (SpellsMember 126) before entriesBefore
  spelledAfter : List.Forall₂ (SpellsMember 126) after entriesAfter
  last : "items" ∉ entriesAfter.map (·.1)
  counted : ∀ counter ∈ Listing.counters, ∀ value,
    Value.entryOf counter (entriesBefore ++ entriesAfter).reverse = some value →
      Listing.IsCounter value

/-- The collections of a document as it is taken: those of its elements in their order, or what is
wrong with the first of them that is no collection. -/
inductive TakenInOrder (elements : List Value) : Except DocumentError (List Collection) → Prop
  | taken {collections : List Collection}
      (each : List.Forall₂ (fun element collection =>
        Collection.read .sorted element = .ok collection) elements collections) :
      TakenInOrder elements (.ok collections)
  | refused {good : List Value} {bad : Value} {rest : List Value} {fault : Fault}
      (same : elements = good ++ bad :: rest)
      (accepted : ∀ element ∈ good, ∃ collection,
        Collection.read .sorted element = .ok collection)
      (first : Collection.read .sorted bad = .error fault) :
      TakenInOrder elements (.error (.json fault))

theorem array_taken_in_order (elements : List Value) :
    TakenInOrder elements (collectionsOfValue (.array elements)) := by
  change TakenInOrder elements ((elements.mapM (Collection.read .sorted)).mapError .json)
  induction elements with
  | nil => exact .taken .nil
  | cons element elements induction =>
      rw [List.mapM_cons]
      cases first : Collection.read .sorted element with
      | error fault => exact .refused (List.nil_append _).symm (by simp) first
      | ok collection =>
          cases others : elements.mapM (Collection.read .sorted) with
          | error fault =>
              rw [others] at induction
              cases induction with
              | refused same accepted bad =>
                  exact .refused (congrArg (element :: ·) same)
                    (List.forall_mem_cons.mpr ⟨⟨collection, first⟩, accepted⟩) bad
          | ok collections =>
              rw [others] at induction
              cases induction with
              | taken each => exact .taken (.cons first each)

/-- The value of a listing is the object of all its entries. -/
theorem parse_envelope {items : List Char} {object : String} {trees : Json.Elements}
    (shows : Shows items (.array trees)) (envelope : Envelope items object.toList) :
    Json.parse object = ((Json.Tree.array trees).value 126).map fun items => Value.ofEntries
      (envelope.entriesBefore ++ ("items", items) :: envelope.entriesAfter) := by
  obtain ⟨before, shownBefore, takenBefore⟩ := Json.Tree.members_of_spelled envelope.spelledBefore
  obtain ⟨after, shownAfter, takenAfter⟩ := Json.Tree.members_of_spelled envelope.spelledAfter
  have shown : Shows object.toList
      (.object (.ofList (before ++ (.ok "items", .array trees) :: after))) :=
    Json.Tree.object_shown (List.rel_append shownBefore
      (.cons ⟨envelope.key, items, rfl, envelope.named, shows⟩ shownAfter)) envelope.bracketed
  rw [Json.Tree.parse_of_shown shown, Json.Tree.greatestDepth, Json.Tree.value_of_object,
    List.mapM_append, takenBefore, List.mapM_cons, takenAfter, Json.Tree.memberValue]
  cases (Json.Tree.array trees).value 126 <;> rfl

/-- The object of a listing says what its items say. -/
theorem collections_of_entries {before after : List (String × Value)} {elements : List Value}
    (last : "items" ∉ after.map (·.1))
    (counted : ∀ counter ∈ Listing.counters, ∀ value,
      Value.entryOf counter (before ++ after).reverse = some value → Listing.IsCounter value) :
    collectionsOfValue (.ofEntries (before ++ ("items", .array elements) :: after)) =
      collectionsOfValue (.array elements) := by
  have items : ("items", .array elements) ∈
      Value.sortEntries (before ++ ("items", .array elements) :: after) := by
    rw [Value.mem_sort_iff, Value.entry_of_middle, if_pos rfl,
      Value.entry_of_eq_none (by simpa using last)]
    rfl
  have named : (Value.sortEntries (before ++ ("items", .array elements) :: after)).any
      (·.1 == "items") = true := List.any_eq_true.mpr ⟨_, items, rfl⟩
  have counters (entry : String × Value)
      (member : entry ∈ Value.sortEntries (before ++ ("items", .array elements) :: after))
      (counter : entry.1 ∈ Listing.counters) : Listing.IsCounter entry.2 := by
    have other : "items" ≠ entry.1 := by
      intro same
      rw [← same] at counter
      exact absurd counter (by decide)
    rw [Value.mem_sort_iff, Value.entry_of_middle, if_neg other] at member
    exact counted entry.1 counter entry.2 member
  have listing : collectionsOfValue (.object _) = _ := if_pos named
  rw [Value.of_entries_eq, listing, Listing.items_of_listing
    ((Value.sort_increasing _).imp ne_of_lt) items counters]
  rfl

theorem envelope_adds_nothing {array object : String} {trees : Json.Elements}
    (shows : Shows array.toList (.array trees)) (nested : (Json.Tree.array trees).levels ≤ 126)
    (envelope : Envelope array.toList object.toList) :
    collections object = collections array ∧
      ∀ elements, Json.parse array = .ok (.array elements) →
        TakenInOrder elements (collections array) := by
  have alone : Json.parse array = (Json.Tree.array trees).value 126 := by
    rw [Json.Tree.parse_of_shown shows, Json.Tree.greatestDepth]
    exact Json.Tree.value_of_levels nested (by decide)
  constructor
  · rw [collections, collections, parse_envelope shows envelope, alone]
    cases taken : (Json.Tree.array trees).value 126 with
    | error fault => rfl
    | ok items =>
        rw [Json.Tree.value] at taken
        obtain ⟨elements, _, same⟩ := Decoder.bind_eq_ok.mp taken
        cases same
        exact collections_of_entries envelope.last envelope.counted
  · intro elements taken
    rw [collections, taken]
    exact array_taken_in_order elements

def repeatedItems : Envelope "[\x7b\"name\":\"a\"\x7d]".toList
    ("\x7b\"page\":null,\"items\":7, \"items\":[\x7b\"name\":\"a\"\x7d]" ++
      ",\"total\" : [\x7b\x7d]\x7d").toList where
  before := ["\"page\":null".toList, "\"items\":7".toList]
  key := " \"items\"".toList
  after := ["\"total\" : [\x7b\x7d]".toList]
  entriesBefore := [("page", .null), ("items", .number (.integer 7))]
  entriesAfter := [("total", .array [.object []])]
  bracketed := ⟨[], [], [], rfl, rfl, rfl, by decide +kernel⟩
  named := ⟨[], by decide +kernel, rfl⟩
  spelledBefore :=
    .cons ⟨.null, ⟨"\"page\"".toList, "null".toList, by decide +kernel,
      ⟨[], by decide +kernel, rfl⟩, ⟨[], by decide +kernel, rfl⟩⟩, rfl⟩
    (.cons ⟨.number ⟨false, ['7'], none, none⟩, ⟨"\"items\"".toList, "7".toList, by decide +kernel,
      ⟨[], by decide +kernel, rfl⟩, ⟨[], by decide +kernel, rfl⟩⟩, rfl⟩ .nil)
  spelledAfter :=
    .cons ⟨.array (.more (.object .done) .done), ⟨"\"total\" ".toList, " [\x7b\x7d]".toList,
      by decide +kernel, ⟨[' '], by decide +kernel, rfl⟩, ⟨[], by decide +kernel, rfl⟩⟩, rfl⟩ .nil
  last := by decide
  counted := by
    intro counter known value found
    simp only [Listing.counters, List.mem_cons, List.not_mem_nil, or_false] at known
    rcases known with rfl | rfl | rfl | rfl <;> cases found
    exact .inl rfl

theorem envelope_adds_nothing_repeated :
    collections ("\x7b\"page\":null,\"items\":7, \"items\":[\x7b\"name\":\"a\"\x7d]" ++
      ",\"total\" : [\x7b\x7d]\x7d") = .ok [{ name := "a" }] := by
  have shows : Shows "[\x7b\"name\":\"a\"\x7d]".toList
      (.array (.more (.object (.more (.ok "name") (.text (.ok "a")) .done)) .done)) :=
    ⟨[], by decide +kernel, rfl⟩
  exact (envelope_adds_nothing shows (by decide) repeatedItems).1.trans (by decide +kernel)

end Document

end CollectionTypes
