import CollectionTypes.Proofs.Collection.Shapes
import CollectionTypes.Proofs.Json.Congruence
import CollectionTypes.Proofs.Json.Differences

/-!
Keys that need not be there. In a record that is written as an object every key but the name may be
left out, or stand before `null` or before its default: the document is read alike, with the same
collections or the same fault. Records that are written as arrays have no keys, and replies, which
are read in text order, are no part of this.
-/

namespace CollectionTypes

open Json (Alike Decoder Fault InOne Value)
open Json.Decoder (Idle)
open Json.Tree (Bracketed ElementDiffers MemberDiffers OptionalDiffers Related Shows ShowsMember
  SpellsMember Unsaid)

namespace Field

def sortedRecord : Json.Record Value Field := ⟨"RawField", keys, ["name"], {}, assign .sorted⟩

def optional : List (String × Value) :=
  [("id", .text ""), ("type", .text ""), ("required", .flag false), ("collectionId", .text ""),
    ("maxSelect", .number (.integer 0)), ("values", .array []), ("hidden", .flag false)]

theorem keys_optional : keys.filter (· ≠ "name") = optional.map (·.1) := by
  decide

/-- A part that is at its default stays there when another is put in place. -/
theorem default_stays {key name : String} {source : Value} {field placed : Field}
    (known : key ∈ optional.map (·.1)) (other : name ≠ key)
    (own : assign .sorted key .null field = .ok field)
    (assigned : assign .sorted name source field = .ok placed) :
    assign .sorted key .null placed = .ok placed := by
  simp only [optional, List.map_cons, List.map_nil, List.mem_cons, List.not_mem_nil, or_false]
    at known
  -- Each name sets one part or, if nobody knows it, none.
  unfold assign at assigned
  split at assigned
  all_goals first
    | (obtain ⟨part, _, same⟩ := Decoder.bind_eq_ok.mp assigned; cases same)
    | cases assigned
  all_goals
    rcases known with rfl | rfl | rfl | rfl | rfl | rfl | rfl <;> first
      | exact absurd rfl other
      | (cases field; cases own; rfl)

theorem optional_table : Decoder.Optional sortedRecord optional where
  allowed := by decide
  idle key known := {
    start := by
      revert key
      decide
    kept := fun _ _ _ _ other assigned own => default_stays known other own assigned }
  standard _ _ known := by
    simp only [optional, List.mem_cons, Prod.mk.injEq, List.not_mem_nil, or_false] at known
    rcases known with ⟨rfl, rfl⟩ | ⟨rfl, rfl⟩ | ⟨rfl, rfl⟩ | ⟨rfl, rfl⟩ | ⟨rfl, rfl⟩ | ⟨rfl, rfl⟩ |
      ⟨rfl, rfl⟩ <;> rfl

end Field

namespace Collection

def sortedRecord : Json.Record Value Collection :=
  ⟨"RawCollection", keys, ["name"], {}, assign .sorted⟩

def optional : List (String × Value) :=
  [("id", .text ""), ("type", .text "base"), ("system", .flag false), ("fields", .array [])]

theorem keys_optional : keys.filter (· ≠ "name") = optional.map (·.1) := by
  decide

theorem default_stays {key name : String} {source : Value} {collection placed : Collection}
    (known : key ∈ optional.map (·.1)) (other : name ≠ key)
    (own : assign .sorted key .null collection = .ok collection)
    (assigned : assign .sorted name source collection = .ok placed) :
    assign .sorted key .null placed = .ok placed := by
  simp only [optional, List.map_cons, List.map_nil, List.mem_cons, List.not_mem_nil, or_false]
    at known
  unfold assign at assigned
  split at assigned
  all_goals first
    | (obtain ⟨part, _, same⟩ := Decoder.bind_eq_ok.mp assigned; cases same)
    | cases assigned
  all_goals
    rcases known with rfl | rfl | rfl | rfl <;> first
      | exact absurd rfl other
      | (cases collection; cases own; rfl)

theorem optional_table : Decoder.Optional sortedRecord optional where
  allowed := by decide
  idle key known := {
    start := by
      revert key
      decide
    kept := fun _ _ _ _ other assigned own => default_stays known other own assigned }
  standard _ _ known := by
    simp only [optional, List.mem_cons, Prod.mk.injEq, List.not_mem_nil, or_false] at known
    rcases known with ⟨rfl, rfl⟩ | ⟨rfl, rfl⟩ | ⟨rfl, rfl⟩ | ⟨rfl, rfl⟩ <;> rfl

end Collection

/-! Lists of records, and what holds them. -/

def ReadAlike {α : Type} (read : Value → Except Fault α) (value value' : Value) : Prop :=
  read value = read value'

def ListsAlike {α : Type} (read : Value → Except Fault α) (value value' : Value) : Prop :=
  ∃ elements elements', value = .array elements ∧ value' = .array elements' ∧
    elements.mapM read = elements'.mapM read

theorem lists_alike {α : Type} {read : Value → Except Fault α} {values values' : List Value}
    (one : InOne (ReadAlike read) values values') :
    ListsAlike read (.array values) (.array values') := by
  cases one with
  | intro front back same =>
      refine ⟨_, _, rfl, rfl, ?_⟩
      rw [List.mapM_append, List.mapM_append, List.mapM_cons, List.mapM_cons, same]

/-- Wherever a list is put in a collection that is not one of fields, it is at fault for being
one. -/
theorem Collection.assign_lists {value value' : Value}
    (alike : ListsAlike (Field.read .sorted) value value') (key : String) :
    sortedRecord.assign key value = sortedRecord.assign key value' := by
  obtain ⟨elements, elements', rfl, rfl, same⟩ := alike
  funext collection
  change assign .sorted key _ collection = assign .sorted key _ collection
  unfold assign
  split
  case h_5 =>
    change (elements.mapM (Field.read .sorted) >>= _) = (elements'.mapM (Field.read .sorted) >>= _)
    rw [same]
  all_goals rfl

theorem Listing.assign_lists {value value' : Value}
    (alike : ListsAlike (Collection.read .sorted) value value') (key : String) :
    sortedRecord.assign key value = sortedRecord.assign key value' := by
  obtain ⟨elements, elements', rfl, rfl, same⟩ := alike
  funext listing
  change assign .sorted key _ listing = assign .sorted key _ listing
  unfold assign
  split
  case h_5 =>
    change (elements.mapM (Collection.read .sorted) >>= _) =
      (elements'.mapM (Collection.read .sorted) >>= _)
    rw [same]
  all_goals rfl

/-! Texts. -/

namespace Field

def ListsDiffer : List Char → List Char → Prop := ElementDiffers (OptionalDiffers optional)

theorem lists_related {text text' : List Char} (differ : ListsDiffer text text') :
    Related 3 (ListsAlike (read .sorted)) text text' :=
  Json.Tree.related_of_element (fun _ _ => lists_alike)
    (fun _ _ => Json.Tree.related_of_optional fun _ _ known _ _ _ => optional_table.unseen known)
    differ

end Field

namespace Collection

/-- Texts of a collection that differ in how it, or one of its fields, does not state an optional
key. A collection may be written as an object or as the array of its parts. -/
inductive Differs : List Char → List Char → Prop
  | key {text text' : List Char} (differ : OptionalDiffers optional text text') :
      Differs text text'
  | field {text text' : List Char} (differ : MemberDiffers "fields" Field.ListsDiffer text text') :
      Differs text text'
  | listed {text text' : List Char} (differ : ElementDiffers Field.ListsDiffer text text') :
      Differs text text'

theorem related {text text' : List Char} (differ : Differs text text') :
    Related 4 (ReadAlike (read .sorted)) text text' := by
  have lists (value value' : Value) (alike : ListsAlike (Field.read .sorted) value value')
      (key : String) := assign_lists alike key
  cases differ with
  | key differ =>
      exact (Json.Tree.related_of_optional
        (fun _ _ known _ _ _ => optional_table.unseen known) differ).deeper (by decide)
  | field differ =>
      exact Json.Tree.related_of_member
        (fun _ _ => Decoder.record_in_one fun value value' alike => lists value value' alike "fields")
        (fun _ _ => Field.lists_related) differ
  | listed differ =>
      exact Json.Tree.related_of_element (fun _ _ => Decoder.elements_in_one lists)
        (fun _ _ => Field.lists_related) differ

end Collection

namespace Document

/-- Texts of a document, the array of an export or the object of a listing, that differ in how one
of the collections or one of their fields does not state an optional key. -/
inductive Differs : List Char → List Char → Prop
  | export_ {text text' : List Char} (differ : ElementDiffers Collection.Differs text text') :
      Differs text text'
  | listing {text text' : List Char}
      (differ : MemberDiffers "items" (ElementDiffers Collection.Differs) text text') :
      Differs text text'

theorem listings_alike {entries entries' : List (String × Value)}
    (one : InOne (fun entry entry' => entry.1 = "items" ∧ entry'.1 = "items" ∧
      ListsAlike (Collection.read .sorted) entry.2 entry'.2) entries entries') :
    collectionsOfValue (.ofEntries entries) = collectionsOfValue (.ofEntries entries') := by
  have each : Value.EntriesAlike (fun _ _ _ => True) entries entries' :=
    Value.entries_alike_of_in_one (fun _ _ => trivial) (fun _ _ _ => trivial) one
  have keys := Value.keys_alike (Value.sort_alike each)
  have named (entries : List (String × Value)) : entries.any (·.1 == "items") =
      (entries.map (·.1)).any (· == "items") := by
    rw [List.any_map]
    rfl
  have read : Listing.read .sorted (.ofEntries entries) =
      Listing.read .sorted (.ofEntries entries') :=
    Decoder.record_in_one (fun value value' alike => Listing.assign_lists alike "items") one
  rw [Value.of_entries_eq, Value.of_entries_eq] at read ⊢
  simp only [collectionsOfValue, named, keys, read]

theorem related {text text' : List Char} (differ : Differs text text') :
    Related 6 (fun value value' => collectionsOfValue value = collectionsOfValue value')
      text text' := by
  cases differ with
  | export_ differ =>
      refine (Json.Tree.related_of_element (fun values values' one => ?_)
        (fun _ _ => Collection.related) differ).deeper (by decide)
      obtain ⟨elements, elements', same, same', taken⟩ := lists_alike one
      cases same
      cases same'
      exact congrArg (Except.mapError DocumentError.json) taken
  | listing differ =>
      exact Json.Tree.related_of_member (fun _ _ => listings_alike)
        (fun _ _ => Json.Tree.related_of_element (fun _ _ => lists_alike)
          fun _ _ => Collection.related) differ

/-- However a record does not state a key, its document is read alike. -/
theorem optional_keys_unseen {text text' : String} (differ : Differs text.toList text'.toList) :
    collections text = collections text' := by
  obtain ⟨tree, tree', shows, shows', values⟩ := related differ
  rw [collections, collections, Json.Tree.parse_of_shown shows, Json.Tree.parse_of_shown shows']
  exact (values Json.Tree.greatestDepth (by decide)).described_eq

def unlimited : String := "\x7b\"name\":\"b\"\x7d"

def unlimitedByZero : String := "\x7b\"name\":\"b\",\"maxSelect\": 0\x7d"

def collectionWith (field : String) : String :=
  "\x7b\"name\":\"a\",\"fields\":[" ++ field ++ "]\x7d"

def documentWith (field : String) : String := "[" ++ collectionWith field ++ ", 5]"

theorem optional_keys_unseen_zero :
    collections (documentWith unlimitedByZero) = collections (documentWith unlimited) ∧
      collections (documentWith unlimited) =
        .error (.json (.wrongType (.number (.integer 5)) "struct RawCollection")) := by
  have key : Shows "\"name\"".toList (.text (.ok "name")) := ⟨[], by decide +kernel, rfl⟩
  have named : ShowsMember "\"name\":\"b\"".toList (.ok "name", .text (.ok "b")) :=
    ⟨_, "\"b\"".toList, by decide +kernel, key, ⟨[], by decide +kernel, rfl⟩⟩
  have limit : SpellsMember 1 "\"maxSelect\": 0".toList ("maxSelect", .number (.integer 0)) :=
    ⟨.number ⟨false, ['0'], none, none⟩, ⟨"\"maxSelect\"".toList, " 0".toList, by decide +kernel,
      ⟨[], by decide +kernel, rfl⟩, ⟨[], by decide +kernel, rfl⟩⟩, rfl⟩
  have known : ("maxSelect", .number (.integer 0)) ∈ Field.optional := by simp [Field.optional]
  have field : OptionalDiffers Field.optional unlimitedByZero.toList unlimited.toList :=
    .intro known (.cons named .nil) .nil (by simp) (.default limit) .left_out
      ⟨[], [], [], rfl, rfl, rfl, by decide +kernel⟩ ⟨[], [], [], rfl, rfl, rfl, by decide +kernel⟩
  have fields : Field.ListsDiffer ("[" ++ unlimitedByZero ++ "]").toList
      ("[" ++ unlimited ++ "]").toList :=
    .intro .nil .nil field ⟨[], [], [], rfl, rfl, rfl, by decide +kernel⟩
      ⟨[], [], [], rfl, rfl, rfl, by decide +kernel⟩
  have first : ShowsMember "\"name\":\"a\"".toList (.ok "name", .text (.ok "a")) :=
    ⟨_, "\"a\"".toList, by decide +kernel, key, ⟨[], by decide +kernel, rfl⟩⟩
  have fieldsKey : Shows "\"fields\"".toList (.text (.ok "fields")) := ⟨[], by decide +kernel, rfl⟩
  have collection : Collection.Differs (collectionWith unlimitedByZero).toList
      (collectionWith unlimited).toList :=
    .field (.intro (.cons first .nil) .nil fieldsKey fields
      ⟨[], [], [], rfl, rfl, rfl, by decide +kernel⟩ ⟨[], [], [], rfl, rfl, rfl, by decide +kernel⟩)
  have five : Shows " 5".toList (.number ⟨false, ['5'], none, none⟩) := ⟨[], by decide +kernel, rfl⟩
  have differ : Differs (documentWith unlimitedByZero).toList (documentWith unlimited).toList :=
    .export_ (.intro .nil (.cons five .nil) collection
      ⟨[], [], [], rfl, rfl, rfl, by decide +kernel⟩ ⟨[], [], [], rfl, rfl, rfl, by decide +kernel⟩)
  exact ⟨optional_keys_unseen differ, by decide +kernel⟩

end Document

end CollectionTypes
