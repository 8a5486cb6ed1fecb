import CollectionTypes.Go.Struct
import CollectionTypes.Proofs.Go.Quotation
import CollectionTypes.Proofs.Text.Pieces
import Mathlib.Data.List.TakeWhile

/-!
The tag of a field as its readers take it apart: a raw string between backquotes, in it pairs of a
key and a quoted value, and in the value for JSON a name that ends at the first comma. A tag holds
the name as it is, and gives it back if and only if none of its letters has a meaning at one of
these levels. What becomes of a name that is read, of an empty one or of a lone hyphen, is no part
of this; neither are letters that a compiler refuses wherever they stand.
-/

namespace CollectionTypes.Go.Tag

open Quotation Text

/-- The value of a text that is one raw string: what stands between two backquotes, less carriage
returns. -/
def rawValue (text : String) : Option (List Char) :=
  match text.toList with
  | [] => none
  | mark :: rest =>
      if mark = '\x60' && rest.dropWhile (· ≠ '\x60') = ['\x60'] then
        some ((rest.takeWhile (· ≠ '\x60')).filter (· ≠ '\r'))
      else none

def isKeyLetter (letter : Char) : Bool :=
  ' ' < letter && letter ≠ ':' && letter ≠ '"' && letter ≠ '\x7f'

/-- The value of a key among pairs of a name, a colon and a quoted value, with blanks between. -/
def lookup (key tag : List Char) : Option (List UInt8) :=
  let pair := tag.dropWhile (· = ' ')
  let name := pair.takeWhile isKeyLetter
  match _valued : pair.dropWhile isKeyLetter with
  | ':' :: '"' :: quoted =>
      match _found : quotedPart quoted with
      | none => none
      | some (inside, after) =>
          if name = [] then none
          else if name = key then unquote inside
          else lookup key after
  | _ => none
termination_by tag.length
decreasing_by
  have dropped : (pair.dropWhile isKeyLetter).length ≤ tag.length :=
    ((List.dropWhile_sublist _).trans (List.dropWhile_sublist _)).length_le
  rw [_valued, quoted_part_split _found] at dropped
  simp only [List.length_cons, List.length_append] at dropped
  omega

def jsonValue (tag : String) : Option (List UInt8) := (rawValue tag).bind (lookup "json".toList)

def comma : UInt8 := 44

def jsonKey (tag : String) : Option (List UInt8) :=
  (jsonValue tag).map (·.takeWhile (· ≠ comma))

def jsonOptions (tag : String) : List (List UInt8) :=
  (jsonValue tag).toList.flatMap fun value => (pieces (· = comma) value).tail

def omitsEmpty (tag : String) : Bool := (jsonOptions tag).contains (utf8 "omitempty".toList)

def marks : List Char := ['\x60', '\r', '"', '\\', '\n', ',']

def isPlain (name : String) : Bool := name.toList.all fun letter => !marks.contains letter

theorem comma_not_high (codes : List Nat) (high : ∀ code ∈ codes, 128 ≤ code ∧ code < 256) :
    comma ∉ codes.map UInt8.ofNat := by
  intro member
  obtain ⟨code, inside, same⟩ := List.mem_map.mp member
  obtain ⟨least, byte⟩ := high code inside
  have number := congrArg UInt8.toNat same
  rw [UInt8.toNat_ofNat', Nat.mod_eq_of_lt byte] at number
  have value : comma.toNat = 44 := rfl
  omega

/-- The byte of a comma is in no other letter: letters of several bytes have none below 128. -/
theorem comma_of_letter {letter : Char} (member : comma ∈ String.utf8EncodeChar letter) :
    letter = ',' := by
  unfold String.utf8EncodeChar at member
  dsimp only at member
  split at member
  · rename_i ascii
    have number := congrArg UInt8.toNat (List.mem_singleton.mp member)
    rw [UInt8.toNat_ofNat', Nat.mod_eq_of_lt (by omega)] at number
    exact Char.ext (UInt32.toNat_inj.mp number.symm)
  split at member
  · exact absurd member (comma_not_high [_, _] (by simp; omega))
  split at member
  · exact absurd member (comma_not_high [_, _, _] (by simp; omega))
  · exact absurd member (comma_not_high [_, _, _, _] (by simp; omega))

theorem comma_of_utf8 {letters : List Char} (member : comma ∈ utf8 letters) : ',' ∈ letters := by
  obtain ⟨letter, inside, encoded⟩ := List.mem_flatMap.mp member
  rwa [← comma_of_letter encoded]

theorem raw_value_of_body (body : List Char) :
    rawValue (String.ofList ('\x60' :: (body ++ ['\x60']))) =
      if '\x60' ∈ body then none else some (body.filter (· ≠ '\r')) := by
  rw [rawValue, String.toList_ofList]
  dsimp only
  by_cases inside : '\x60' ∈ body
  · have some : body.dropWhile (· ≠ '\x60') ≠ [] := by
      rw [Ne, List.dropWhile_eq_nil_iff]
      exact fun none => absurd (none '\x60' inside) (by decide)
    have longer : (body ++ ['\x60']).dropWhile (· ≠ '\x60') ≠ ['\x60'] := by
      rw [List.dropWhile_append, if_neg (by simpa using some)]
      exact fun single => some (by simpa using single)
    rw [if_pos inside, if_neg (by simpa using longer)]
  · have clean : ∀ letter ∈ body, decide (letter ≠ '\x60') = true := by
      intro letter member
      rw [decide_eq_true_eq]
      rintro rfl
      exact inside member
    obtain ⟨taken, left⟩ := run_until clean '\x60' (by decide) []
    simp only [taken, left, if_neg inside]
    rfl

theorem lookup_json (quoted : List Char) :
    lookup "json".toList ("json:\"".toList ++ quoted) =
      (quotedPart quoted).bind fun part => unquote part.1 := by
  have rest : (("json:\"".toList ++ quoted).dropWhile (· = ' ')).dropWhile isKeyLetter =
      ':' :: '"' :: quoted := rfl
  have name : (("json:\"".toList ++ quoted).dropWhile (· = ' ')).takeWhile isKeyLetter =
      "json".toList := rfl
  rw [lookup]
  simp only [name]
  split
  · rename_i others valued
    rw [rest] at valued
    obtain ⟨_, _, same⟩ := valued
    split
    · rename_i unread
      rw [unread]
      rfl
    · rename_i inside after read
      rw [read]
      rfl
  · rename_i none
    exact absurd rest (none quoted)

def held (name : String) (omitEmpty : Bool) : List Char :=
  name.toList ++ if omitEmpty then ",omitempty".toList else []

theorem json_value_of_tag (name : String) (omitEmpty : Bool) :
    jsonValue (jsonTag name omitEmpty) =
      if '\x60' ∈ name.toList then none
      else (quotedPart ((held name omitEmpty).filter (· ≠ '\r') ++ ['"'])).bind
        fun part => unquote part.1 := by
  let body := "json:\"".toList ++ (held name omitEmpty ++ ['"'])
  have text : jsonTag name omitEmpty = String.ofList ('\x60' :: (body ++ ['\x60'])) := by
    rw [← String.toList_inj, String.toList_ofList]
    cases omitEmpty <;> simp [jsonTag, body, held]
  have inside : '\x60' ∈ body ↔ '\x60' ∈ name.toList := by
    cases omitEmpty <;> simp [body, held]
  have shown : body.filter (· ≠ '\r') =
      "json:\"".toList ++ ((held name omitEmpty).filter (· ≠ '\r') ++ ['"']) := by
    simp only [body, List.filter_append]
    rfl
  rw [jsonValue, text, raw_value_of_body, shown]
  simp only [inside]
  split
  · rfl
  · exact lookup_json _

theorem plain_iff {name : String} : isPlain name = true ↔ ∀ letter ∈ name.toList,
    letter ≠ '\x60' ∧ letter ≠ '\r' ∧ (letter ≠ '"' ∧ letter ≠ '\\' ∧ letter ≠ '\n') ∧
      letter ≠ ',' := by
  rw [isPlain, List.all_eq_true]
  refine forall₂_congr fun letter _ => ?_
  simp only [marks, Bool.not_eq_true', List.contains_eq_mem, decide_eq_false_iff_not,
    List.mem_cons, List.not_mem_nil, or_false, not_or, and_assoc, ne_eq]

theorem key_until_comma (name : String) (omitEmpty : Bool) (noComma : ',' ∉ name.toList) :
    (utf8 (held name omitEmpty)).takeWhile (· ≠ comma) = utf8 name.toList := by
  have clean : ∀ byte ∈ utf8 name.toList, decide (byte ≠ comma) = true := by
    intro byte member
    rw [decide_eq_true_eq]
    rintro rfl
    exact noComma (comma_of_utf8 member)
  cases omitEmpty with
  | false =>
      rw [held, if_neg Bool.false_ne_true, List.append_nil]
      exact List.takeWhile_eq_self_iff.mpr clean
  | true =>
      have options : utf8 ",omitempty".toList = comma :: utf8 "omitempty".toList := by decide
      rw [held, if_pos rfl, utf8_append, options]
      exact (run_until clean comma (by decide) _).1

section Plain

variable {name : String} (plain : isPlain name = true) (omitEmpty : Bool)

include plain

theorem value_of_plain :
    jsonValue (jsonTag name omitEmpty) = some (utf8 (held name omitEmpty)) := by
  have clean := plain_iff.mp plain
  have options : ∀ letter ∈ held name omitEmpty,
      letter ≠ '\r' ∧ (letter ≠ '"' ∧ letter ≠ '\\' ∧ letter ≠ '\n') := by
    intro letter member
    rcases List.mem_append.mp member with own | option
    · exact ⟨(clean letter own).2.1, (clean letter own).2.2.1⟩
    · cases omitEmpty with
      | false => contradiction
      | true =>
          have unmarked : (",omitempty".toList.all fun letter =>
              letter ≠ '\r' && letter ≠ '"' && letter ≠ '\\' && letter ≠ '\n') = true := by
            decide
          simpa [and_assoc] using List.all_eq_true.mp unmarked letter option
  have kept : (held name omitEmpty).filter (· ≠ '\r') = held name omitEmpty :=
    List.filter_eq_self.mpr fun letter member => by simpa using (options letter member).1
  have unquotable : Unquotable (held name omitEmpty) :=
    fun letter member => (options letter member).2
  rw [json_value_of_tag, if_neg fun inside => (clean _ inside).1 rfl, kept,
    quoted_part_plain unquotable]
  exact unquote_plain unquotable

theorem key_of_plain : jsonKey (jsonTag name omitEmpty) = some (utf8 name.toList) := by
  rw [jsonKey, value_of_plain plain, Option.map_some, key_until_comma]
  exact fun inside => (plain_iff.mp plain _ inside).2.2.2 rfl

end Plain

/-- Whatever is lost on the way makes the value shorter than what was written. -/
theorem plain_of_long_value {name : String} {omitEmpty : Bool} {value : List UInt8}
    (read : jsonValue (jsonTag name omitEmpty) = some value)
    (long : (utf8 (held name omitEmpty)).length ≤ value.length) :
    '\x60' ∉ name.toList ∧ '\r' ∉ held name omitEmpty ∧ Unquotable (held name omitEmpty) := by
  rw [json_value_of_tag] at read
  split at read
  · contradiction
  · rename_i outside
    obtain ⟨⟨inside, after⟩, found, unquoted⟩ := Option.bind_eq_some_iff.mp read
    dsimp only at unquoted
    have split := quoted_part_split found
    -- The value is as long as all that was written, so that nothing was dropped, cut or escaped.
    have sizes := congrArg (fun letters => (utf8 letters).length) split
    simp only [utf8_append, List.length_append, utf8_cons_length] at sizes
    have nothing : (utf8 []).length = 0 := rfl
    have kept : '\r' ∉ held name omitEmpty := by
      intro return_
      have fewer := utf8_drop_length return_
      rcases unquote_cases unquoted with plain | shorter
      · rw [unquote_plain plain] at unquoted
        rw [← Option.some.inj unquoted] at long
        omega
      · omega
    have same : (held name omitEmpty).filter (· ≠ '\r') = held name omitEmpty := by
      rw [List.filter_eq_self]
      intro letter member
      rw [decide_eq_true_eq]
      rintro rfl
      exact kept member
    rw [same] at split sizes
    have unquotable : Unquotable inside := by
      rcases unquote_cases unquoted with plain | shorter
      · exact plain
      · omega
    rw [unquote_plain unquotable] at unquoted
    rw [← Option.some.inj unquoted] at long
    have end_ : after = [] := by
      have bytes := length_le_utf8 after
      exact List.eq_nil_of_length_eq_zero (by omega)
    rw [end_] at split
    rw [List.append_cancel_right split]
    exact ⟨outside, List.append_cancel_right split ▸ kept, unquotable⟩

theorem plain_of_parts {name : String} {omitEmpty : Bool} (backquote : '\x60' ∉ name.toList)
    (return_ : '\r' ∉ held name omitEmpty) (unquotable : Unquotable (held name omitEmpty))
    (comma_ : ',' ∉ name.toList) : isPlain name = true := by
  rw [plain_iff]
  intro letter member
  have inHeld : letter ∈ held name omitEmpty := List.mem_append_left _ member
  exact ⟨fun same => backquote (same ▸ member), fun same => return_ (same ▸ inHeld),
    unquotable letter inHeld, fun same => comma_ (same ▸ member)⟩

/-- A key ends before the first comma. -/
theorem no_comma_of_key {name : String} {omitEmpty : Bool}
    (key : jsonKey (jsonTag name omitEmpty) = some (utf8 name.toList)) : ',' ∉ name.toList := by
  intro inside
  have member : comma ∈ utf8 name.toList := List.mem_flatMap.mpr ⟨',', inside, by decide⟩
  obtain ⟨value, _, cut⟩ := Option.map_eq_some_iff.mp key
  rw [← cut] at member
  exact absurd (List.mem_takeWhile_imp member) (by decide)

theorem omits_empty_of_plain {name : String} (plain : isPlain name = true) (omitEmpty : Bool) :
    omitsEmpty (jsonTag name omitEmpty) = omitEmpty := by
  have clean : ∀ byte ∈ utf8 name.toList, decide (byte = comma) = false := by
    intro byte member
    rw [decide_eq_false_iff_not]
    rintro rfl
    exact (plain_iff.mp plain _ (comma_of_utf8 member)).2.2.2 rfl
  rw [omitsEmpty, jsonOptions, value_of_plain plain, Option.toList_some, List.flatMap_singleton]
  cases omitEmpty with
  | false =>
      rw [held, if_neg Bool.false_ne_true, List.append_nil, pieces_of_no_separator clean]
      rfl
  | true =>
      have options : utf8 ",omitempty".toList = comma :: utf8 "omitempty".toList := by decide
      have listed : (pieces (· = comma) (utf8 "omitempty".toList)).contains
          (utf8 "omitempty".toList) = true := by decide +kernel
      rw [held, if_pos rfl, utf8_append, options, pieces_append_separator clean comma (by decide)]
      exact listed

/-- Of a name that is read back, with or without the option, no letter is a mark. -/
theorem key_and_option_iff (name : String) (omitEmpty : Bool) :
    (jsonKey (jsonTag name omitEmpty) = some (utf8 name.toList) ∧
      omitsEmpty (jsonTag name omitEmpty) = omitEmpty) ↔ isPlain name = true := by
  constructor
  · rintro ⟨key, option⟩
    obtain ⟨value, read, cut⟩ := Option.map_eq_some_iff.mp key
    have long : (utf8 (held name omitEmpty)).length ≤ value.length := by
      cases omitEmpty with
      | false =>
          rw [held, if_neg Bool.false_ne_true, List.append_nil, ← cut]
          exact (List.takeWhile_sublist _).length_le
      | true =>
          have listed : utf8 "omitempty".toList ∈ (pieces (· = comma) value).tail := by
            rw [omitsEmpty, jsonOptions, read, List.contains_iff_mem] at option
            simpa using option
          have behind := later_piece_length listed
          have same : (fun byte => !decide (byte = comma)) = fun byte => decide (byte ≠ comma) := by
            funext byte
            simp
          have sizes : (utf8 ",omitempty".toList).length = 1 + (utf8 "omitempty".toList).length := by
            decide
          rw [same, cut] at behind
          rw [held, if_pos rfl, utf8_append, List.length_append, sizes]
          omega
    obtain ⟨backquote, return_, unquotable⟩ := plain_of_long_value read long
    exact plain_of_parts backquote return_ unquotable (no_comma_of_key key)
  · exact fun plain => ⟨key_of_plain plain omitEmpty, omits_empty_of_plain plain omitEmpty⟩

/-- The tag of a name is read as that name, followed by nothing but the option, exactly if no letter
of the name is a mark. So different names of this kind never share a key. -/
theorem tag_reads_back_iff (name : String) (omitEmpty : Bool) :
    ((jsonValue (jsonTag name omitEmpty) = some (utf8 (held name omitEmpty)) ∧
        jsonKey (jsonTag name omitEmpty) = some (utf8 name.toList)) ↔ isPlain name = true) ∧
      ∀ (other : String) (otherOmit : Bool), isPlain name = true → isPlain other = true →
        name ≠ other → jsonKey (jsonTag name omitEmpty) ≠ jsonKey (jsonTag other otherOmit) := by
  refine ⟨⟨?_, ?_⟩, ?_⟩
  · rintro ⟨value, key⟩
    obtain ⟨backquote, return_, unquotable⟩ := plain_of_long_value value (Nat.le_refl _)
    exact plain_of_parts backquote return_ unquotable (no_comma_of_key key)
  · exact fun plain => ⟨value_of_plain plain omitEmpty, key_of_plain plain omitEmpty⟩
  · intro other otherOmit plain otherPlain different same
    rw [key_of_plain plain, key_of_plain otherPlain] at same
    exact different (String.toList_inj.mp (utf8_injective (Option.some.inj same)))

theorem tag_reads_back_iff_spaced :
    isPlain "first name" = true ∧ isPlain "prénom" = true ∧ "first name" ≠ "prénom" ∧
      jsonKey (jsonTag "first name" false) ≠ jsonKey (jsonTag "prénom" true) :=
  have plain : isPlain "first name" = true := by decide
  have otherPlain : isPlain "prénom" = true := by decide
  have different : "first name" ≠ "prénom" := by decide
  ⟨plain, otherPlain, different,
    (tag_reads_back_iff "first name" false).2 "prénom" true plain otherPlain different⟩

/-- A quote ends the key where it stands, a comma turns what follows into options, and then two
names have one key. -/
theorem marked_names_cut :
    jsonKey (jsonTag "say \"hi\"" true) = some (utf8 "say ".toList) ∧
      jsonKey (jsonTag "say \"hi\"" true) ≠ some (utf8 "say \"hi\"".toList) ∧
      jsonKey (jsonTag "a,b" true) = jsonKey (jsonTag "a" true) := by
  decide +kernel

end CollectionTypes.Go.Tag
