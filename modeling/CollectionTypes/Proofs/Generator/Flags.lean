import CollectionTypes.Go.Struct
import CollectionTypes.Proofs.TypeScript.Types

/-!
The two flags of a property, read off what is written for it. Whether it may be absent and whether
it holds several values are marks around the type of one value, which knows of neither: the brackets
of an array stand at that type, and what says that a value may be absent stands around both. No two
settings of the flags make texts of the same length.
-/

namespace CollectionTypes

structure Property.Alike (first second : Property) : Prop where
  name : first.name = second.name
  owner : first.owner = second.owner
  kind : first.kind = second.kind
  data : first.data = second.data

def Property.SameFlags (first second : Property) : Prop :=
  first.optional = second.optional ∧ first.array = second.array

namespace Property.Alike

variable {first second : Property} (alike : Alike first second)

include alike

theorem enum_name (symbols : Symbols) : symbols.enumName first = symbols.enumName second := by
  simp only [Symbols.enumName, Symbols.enumName?, Symbols.enumKey, Symbols.enumStem,
    Property.enumTypeName, alike.name, alike.owner]

theorem relation_target : first.relationTarget? = second.relationTarget? := by
  simp only [Property.relationTarget?, alike.data]

theorem eq_of_flags (same : first.SameFlags second) : first = second := by
  cases first
  cases second
  rw [Property.mk.injEq]
  exact ⟨alike.name, alike.owner, same.1, alike.kind, same.2, alike.data⟩

end Property.Alike

namespace TypeScript

def typeMark (property : Property) : String :=
  if property.array then "[]"
  else if property.optional && property.kind == .json then " | null | \"\""
  else ""

def memberMark (property : Property) : String := if property.optional then "?" else ""

section Members

variable {style : Style} {symbols : Symbols} {property first second : Property}

theorem type_text : (typeOf style symbols property).write =
    (elementType style symbols property).write ++ typeMark property := by
  unfold typeOf compose typeMark
  split
  · rfl
  · split
    · rfl
    · exact String.append_empty.symm

theorem member_text : (Member.ofProperty style symbols property).write =
    propertyName property.name ++ memberMark property ++ ": " ++
      ((elementType style symbols property).write ++ typeMark property) ++ ";" := by
  rw [← type_text]
  rfl

theorem element_type_alike (alike : first.Alike second) :
    elementType style symbols first = elementType style symbols second := by
  simp only [elementType, resolvedElement, alike.kind, alike.enum_name, alike.relation_target]

/-- The type of one value joins no types, so that brackets need no parentheses around it. -/
theorem element_joins_nothing (worded : symbols.Worded) (style : Style) (property : Property) :
    '|' ∉ (elementType style symbols property).write.toList := by
  have names := element_type_names style symbols property
  cases element : elementType style symbols property with
  | named name =>
      rw [element] at names
      have word := Symbols.referenced_are_words worded .typeScript property name (names name rfl)
      exact fun member => absurd (word.letters '|' member) (by decide)
  | string | number | boolean | object => decide

def markLength (json optional array : Bool) : Nat :=
  (if optional then 1 else 0) + if array then 2 else if optional && json then 12 else 0

theorem mark_length_inj : ∀ json optional array optional' array',
    markLength json optional array = markLength json optional' array' →
      optional = optional' ∧ array = array' := by
  decide

theorem member_length : (Member.ofProperty style symbols property).write.length =
    (propertyName property.name).length + (elementType style symbols property).write.length + 3 +
      markLength (property.kind == .json) property.optional property.array := by
  have member : (memberMark property).length = if property.optional then 1 else 0 :=
    apply_ite String.length ..
  have type : (typeMark property).length =
      if property.array then 2 else if property.optional && property.kind == .json then 12 else 0 :=
    (apply_ite String.length ..).trans (congrArg (ite _ _) (apply_ite String.length ..))
  have stock : ": ".length = 2 ∧ ";".length = 1 := by decide
  rw [member_text, markLength]
  simp only [String.length_append, member, type, stock]
  omega

theorem flags_of_member (alike : first.Alike second)
    (same : (Member.ofProperty style symbols first).write =
      (Member.ofProperty style symbols second).write) : first.SameFlags second := by
  have lengths := congrArg String.length same
  rw [member_length, member_length, alike.name, alike.kind, element_type_alike alike,
    Nat.add_left_cancel_iff] at lengths
  exact mark_length_inj _ _ _ _ _ lengths

end Members

end TypeScript

namespace Go

/-- Types that have an empty value of their own are seen by how they begin. -/
def opensNilable (text : String) : Bool :=
  ["*", "map[", "[]"].any fun opening => opening.toList.isPrefixOf text.toList

/-- What stands in front of the type of one value: a pointer to the whole, unless that is nilable,
and the brackets of a slice. -/
def typeMark (style : Style) (property : Property) (nilable : Bool) : String :=
  (if property.optional && style.explicitOptional && (property.array || !nilable) then "*"
    else "") ++
    if property.array then "[]" else ""

section Fields

variable {style : Style} {symbols : Symbols} {property first second : Property}

theorem element_type_alike (alike : first.Alike second) :
    elementType style symbols first = elementType style symbols second := by
  simp only [elementType, resolvedType, alike.kind, alike.enum_name, alike.relation_target]

theorem opens_nilable_word {name : String} (word : Naming.IsWord name) :
    opensNilable name = false := by
  rw [opensNilable, List.any_eq_false]
  intro opening member opens
  obtain ⟨rest, letters⟩ := List.isPrefixOf_iff_prefix.mp opens
  have mark : ∀ opening ∈ ["*", "map[", "[]"],
      opening.toList.any (!Naming.isWordLetter ·) = true := by
    decide
  obtain ⟨letter, inside, noWord⟩ := List.any_eq_true.mp (mark opening member)
  have own := word.letters letter (letters ▸ List.mem_append_left rest inside)
  simp [own] at noWord

theorem opens_nilable_pointer (target : TypeExpr) :
    opensNilable (TypeExpr.pointer target).write = true := by
  have letters : (TypeExpr.pointer target).write.toList = '*' :: target.write.toList :=
    String.toList_append
  rw [opensNilable, letters]
  rfl

/-- A type is nilable if and only if it begins like one, since no name begins so. -/
theorem opens_nilable_element (worded : symbols.Worded) (style : Style) (property : Property) :
    opensNilable (elementType style symbols property).write =
      (elementType style symbols property).isNilable := by
  unfold elementType
  cases property.kind with
  | enumeration => exact opens_nilable_word (worded.enums property)
  | relation =>
      dsimp only
      split
      · decide
      · unfold resolvedType
        split
        · exact opens_nilable_pointer _
        · decide
  | text | number | boolean | json | file | date =>
      dsimp only
      decide

theorem type_text : (typeOf style symbols property).write =
    typeMark style property (elementType style symbols property).isNilable ++
      (elementType style symbols property).write := by
  simp only [typeOf, typeMark]
  generalize elementType style symbols property = element
  cases property.optional && style.explicitOptional with
  | false => cases property.array <;> simp [TypeExpr.write]
  | true =>
      cases property.array with
      | true => simp [TypeExpr.write, ← String.append_assoc]
      | false => cases element.isNilable <;> simp [TypeExpr.write]

def namedField (style : Style) (symbols : Symbols) (name : String) (property : Property) :
    StructField :=
  { Struct.propertyField style symbols property with name := name }

def markLength (explicit nilable optional array : Bool) : Nat :=
  (if optional && explicit && (array || !nilable) then 1 else 0) + (if array then 2 else 0) +
    if optional then 10 else 0

theorem mark_length_inj : ∀ explicit nilable optional array optional' array',
    markLength explicit nilable optional array = markLength explicit nilable optional' array' →
      optional = optional' ∧ array = array' := by
  decide

theorem field_length (name : String) : (namedField style symbols name property).write.length =
    name.length + (elementType style symbols property).write.length + property.name.length + 11 +
      markLength style.explicitOptional (elementType style symbols property).isNilable
        property.optional property.array := by
  have pointer (explicit : Bool) :
      (if explicit then "*" else "").length = if explicit then 1 else 0 :=
    apply_ite String.length ..
  have slice : (if property.array then "[]" else "").length = if property.array then 2 else 0 :=
    apply_ite String.length ..
  have omitted : (if property.optional then ",omitempty" else "").length =
      if property.optional then 10 else 0 :=
    apply_ite String.length ..
  have stock : " ".length = 1 ∧ "`json:\"".length = 7 ∧ "\"`".length = 2 := by decide
  have type : (namedField style symbols name property).type = typeOf style symbols property := rfl
  have text : (namedField style symbols name property).write = name ++ " " ++
      (typeMark style property (elementType style symbols property).isNilable ++
        (elementType style symbols property).write) ++ " " ++
      ("`json:\"" ++ property.name ++ (if property.optional then ",omitempty" else "") ++
        "\"`") := by
    rw [← type_text]
    rfl
  rw [text, typeMark, markLength]
  simp only [String.length_append, pointer, slice, omitted, stock]
  omega

theorem flags_of_field (alike : first.Alike second) {name : String}
    (same : (namedField style symbols name first).write =
      (namedField style symbols name second).write) : first.SameFlags second := by
  have lengths := congrArg String.length same
  rw [field_length, field_length, alike.name, element_type_alike alike,
    Nat.add_left_cancel_iff] at lengths
  exact mark_length_inj _ _ _ _ _ _ lengths

end Fields

end Go

structure ShowsFlags (style : Style) (symbols : Symbols) (first second : Property) : Prop where
  member : (TypeScript.Member.ofProperty style symbols first).write =
    (TypeScript.Member.ofProperty style symbols second).write ↔ first.SameFlags second
  field : ∀ name, (Go.namedField style symbols name first).write =
    (Go.namedField style symbols name second).write ↔ first.SameFlags second
  /-- One type of a single value underlies the texts, whatever the flags. -/
  element :
    TypeScript.elementType style symbols first = TypeScript.elementType style symbols second ∧
      Go.elementType style symbols first = Go.elementType style symbols second
  joinsNothing : '|' ∉ (TypeScript.elementType style symbols first).write.toList
  memberText : (TypeScript.Member.ofProperty style symbols first).write =
    TypeScript.propertyName first.name ++ TypeScript.memberMark first ++ ": " ++
      ((TypeScript.elementType style symbols first).write ++ TypeScript.typeMark first) ++ ";"
  fieldText : ∀ name, (Go.namedField style symbols name first).write =
    name ++ " " ++
      (Go.typeMark style first
          (Go.opensNilable (Go.elementType style symbols first).write) ++
        (Go.elementType style symbols first).write) ++
      " " ++ Go.jsonTag first.name first.optional

theorem flags_shown (models : List Model) (target : Target) (style : Style)
    {first second : Property} (alike : first.Alike second) :
    ShowsFlags style (Symbols.ofModels models target) first second := by
  have worded := Symbols.of_models_worded models target
  refine
    { member := ⟨TypeScript.flags_of_member alike, fun same => ?_⟩
      field := fun _ => ⟨Go.flags_of_field alike, fun same => ?_⟩
      element := ⟨TypeScript.element_type_alike alike, Go.element_type_alike alike⟩
      joinsNothing := TypeScript.element_joins_nothing worded style first
      memberText := TypeScript.member_text
      fieldText := fun name => ?_ }
  · rw [alike.eq_of_flags same]
  · rw [alike.eq_of_flags same]
  · rw [Go.opens_nilable_element worded, ← Go.type_text]
    rfl

theorem flags_shown_of_quoted :
    let style : Style := { explicitOptional := true }
    let symbols := Symbols.ofModels [] .goStruct
    let first : Property :=
      { name := "say \"hi\",omitempty", owner := "posts", optional := true, kind := .json,
        data := .plain }
    let second : Property := { first with optional := false, array := true }
    first.Alike second ∧
      (TypeScript.Member.ofProperty style symbols first).write ≠
        (TypeScript.Member.ofProperty style symbols second).write ∧
      (Go.namedField style symbols "Say" first).write ≠
        (Go.namedField style symbols "Say" second).write := by
  intro style symbols first second
  have alike : first.Alike second := ⟨rfl, rfl, rfl, rfl⟩
  have apart : ¬first.SameFlags second := fun same => absurd same.1 (by decide)
  have shown := flags_shown [] .goStruct style alike
  exact ⟨alike, fun same => apart (shown.member.mp same),
    fun same => apart ((shown.field "Say").mp same)⟩

end CollectionTypes
