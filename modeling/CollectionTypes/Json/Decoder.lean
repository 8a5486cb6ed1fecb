import CollectionTypes.Json.Tree

/-!
Records from documents. A decoder says how the parts that records are made of are taken from one
kind of document. There are two: `Decoder.sorted` takes a checked value, whose entries come in the
order of their keys, and `Decoder.textual` takes a tree, in text order, and never looks behind the
first fault it meets.

A record may be written as an object, of which unknown keys are ignored, or as an array of its
fields in their order, of which the tail may be left out. For every field but the required ones
`null` stands for the default.
-/

namespace CollectionTypes.Json

/-- A record type: its fields in order, the required ones, and how a field is put in place. -/
structure Record (Source α : Type) where
  title : String
  fields : List String
  required : List String
  start : α
  assign : String → Source → α → Except Fault α

structure Decoder (Source : Type) where
  isNull : Source → Bool
  text : Source → Except Fault String
  flag : Source → Except Fault Bool
  /-- A natural number below 2^32. -/
  count : Source → Except Fault Nat
  /-- One of several names, perhaps as the only key of an object. -/
  variant : Source → Except Fault String
  list : {α : Type} → (Source → Except Fault α) → Source → Except Fault (List α)
  record : {α : Type} → Record Source α → Source → Except Fault α

namespace Decoder

/-- Reads `null` as the default. -/
def orDefault {Source α : Type} (decoder : Decoder Source) (fallback : α)
    (read : Source → Except Fault α) (source : Source) : Except Fault α :=
  if decoder.isNull source then .ok fallback else read source

def countOfNumber (wanted : String) : Number → Except Fault Nat
  | .integer value =>
      if 0 ≤ value && value < Nat.pow 2 32 then .ok value.toNat
      else .error (.wrongValue (.number (.integer value)) wanted)
  | number => .error (.wrongType (.number number) wanted)

def countWanted : String := "u32"

def lengthWanted {Source α : Type} (record : Record Source α) : String :=
  "struct " ++ record.title ++ " with " ++ Text.Decimal.write record.fields.length ++ " elements"

def recordWanted {Source α : Type} (record : Record Source α) : String :=
  "struct " ++ record.title

/-- The first required field that is not among the names given. -/
def firstMissing {Source α : Type} (record : Record Source α) (given : List String) :
    Option String :=
  record.required.find? (!given.contains ·)

/-- The fields that an array of too few elements leaves out have to have defaults. -/
def checkTail {Source α : Type} (record : Record Source α) (position : Nat) :
    List String → Except Fault Unit
  | [] => .ok ()
  | field :: rest =>
      if record.required.contains field then .error (.wrongLength position (lengthWanted record))
      else checkTail record (position + 1) rest

/-! Taking a checked value. -/

namespace Sorted

def text : Value → Except Fault String
  | .text value => .ok value
  | other => .error (.wrongType (.ofValue other) "a string")

def flag : Value → Except Fault Bool
  | .flag value => .ok value
  | other => .error (.wrongType (.ofValue other) "a boolean")

def count : Value → Except Fault Nat
  | .number number => countOfNumber countWanted number
  | other => .error (.wrongType (.ofValue other) countWanted)

def variant : Value → Except Fault String
  | .text value => .ok value
  | .object [(key, .null)] => .ok key
  | .object [(_, other)] => .error (.wrongType (.ofValue other) "unit")
  | .object _ => .error (.wrongValue .mapping "map with a single key")
  | other => .error (.wrongType (.ofValue other) "string or map")

def list {α : Type} (read : Value → Except Fault α) : Value → Except Fault (List α)
  | .array elements => elements.mapM read
  | other => .error (.wrongType (.ofValue other) "a sequence")

/-- Puts the entries of known fields in place, in the order of their keys. -/
def assignEntries {α : Type} (record : Record Value α) (start : α)
    (entries : List (String × Value)) : Except Fault α :=
  entries.foldlM
    (fun built (key, value) =>
      if record.fields.contains key then record.assign key value built else .ok built)
    start

def assignElements {α : Type} (record : Record Value α) (built : α) (position : Nat) :
    List String → List Value → Except Fault α
  | [], [] => .ok built
  | fields, [] => do
      checkTail record position fields
      return built
  | [], extra => .error (.wrongLength (position + extra.length) "fewer elements in array")
  | field :: fields, value :: values => do
      assignElements record (← record.assign field value built) (position + 1) fields values

def record {α : Type} (record : Record Value α) : Value → Except Fault α
  | .object entries => do
      let built ← assignEntries record record.start entries
      match firstMissing record (entries.map (·.1)) with
      | some name => .error (.missingField name)
      | none => .ok built
  | .array elements => assignElements record record.start 0 record.fields elements
  | other => .error (.wrongType (.ofValue other) (recordWanted record))

end Sorted

def sorted : Decoder Value where
  isNull value := match value with
    | .null => true
    | _ => false
  text := Sorted.text
  flag := Sorted.flag
  count := Sorted.count
  variant := Sorted.variant
  list := Sorted.list
  record := Sorted.record

/-! Taking a tree in text order. -/

namespace Textual

/-- What a tree shows of itself where another kind of value is wanted. -/
def mismatch (wanted : String) : Tree → Fault
  | .null => .wrongType .null wanted
  | .flag value => .wrongType (.flag value) wanted
  | .number numeral =>
      match numeral.value? with
      | some number => .wrongType (.number number) wanted
      | none => .malformed
  | .text (.ok value) => .wrongType (.text value) wanted
  | .text (.error fault) => fault
  | .array _ => .wrongType .sequence wanted
  | .object _ => .wrongType .mapping wanted
  | .broken fault _ => fault

def text : Tree → Except Fault String
  | .text letters => letters
  | other => .error (mismatch "a string" other)

def flag : Tree → Except Fault Bool
  | .flag value => .ok value
  | other => .error (mismatch "a boolean" other)

def count : Tree → Except Fault Nat
  | .number numeral =>
      match numeral.value? with
      | some number => countOfNumber countWanted number
      | none => .error .malformed
  | other => .error (mismatch countWanted other)

def unit : Tree → Except Fault Unit
  | .null => .ok ()
  | other => .error (mismatch "unit" other)

/-- A value of a kind that cannot name a variant counts as malformed text. -/
def variant : Tree → Except Fault String
  | .text letters => letters
  | .object (.more key value rest) => do
      let name ← key
      unit value
      match rest with
      | .done => return name
      | .cut fault => .error fault
      | .cutKey _ _ | .more _ _ _ => .error .malformed
  | .object (.cut fault) => .error fault
  | .object (.cutKey fault _) => .error fault
  | .broken fault _ => .error fault
  | _ => .error .malformed

def elements {α : Type} (read : Tree → Except Fault α) : Elements → Except Fault (List α)
  | .done => .ok []
  | .cut fault => .error fault
  | .more head tail => do
      let first ← read head
      return first :: (← elements read tail)

def list {α : Type} (read : Tree → Except Fault α) : Tree → Except Fault (List α)
  | .array trees => elements read trees
  | other => .error (mismatch "a sequence" other)

/-- Puts members in place as they come; `seen` are the fields met before. -/
def assignMembers {α : Type} (record : Record Tree α) (seen : List String) (built : α) :
    Members → Except Fault α
  | .done =>
      match firstMissing record seen with
      | some name => .error (.missingField name)
      | none => .ok built
  | .cut fault => .error fault
  | .cutKey fault _ => .error fault
  | .more key value rest => do
      let name ← key
      if record.fields.contains name then
        if seen.contains name then .error (.duplicateField name)
        else assignMembers record (name :: seen) (← record.assign name value built) rest
      else
        value.skip
        assignMembers record seen built rest

def assignElements {α : Type} (record : Record Tree α) (built : α) (position : Nat) :
    List String → Elements → Except Fault α
  | fields, .done => do
      checkTail record position fields
      return built
  | _, .cut fault => .error fault
  | [], .more _ _ => .error .malformed
  | field :: fields, .more head tail => do
      assignElements record (← record.assign field head built) (position + 1) fields tail

def record {α : Type} (record : Record Tree α) : Tree → Except Fault α
  | .object members => assignMembers record [] record.start members
  | .array trees => assignElements record record.start 0 record.fields trees
  | other => .error (mismatch (recordWanted record) other)

end Textual

def textual : Decoder Tree where
  isNull tree := match tree with
    | .null => true
    | _ => false
  text := Textual.text
  flag := Textual.flag
  count := Textual.count
  variant := Textual.variant
  list := Textual.list
  record := Textual.record

end Decoder

/-- Decodes a whole text in text order; blanks alone may follow. -/
def decodeText {α : Type} (read : Tree → Except Fault α) (text : String) : Except Fault α := do
  let (tree, rest) := Tree.ofLetters text.toList
  let value ← read tree
  match rest with
  | none => .error .malformed
  | some rest => do
      Tree.checkEnd rest
      return value

end CollectionTypes.Json
