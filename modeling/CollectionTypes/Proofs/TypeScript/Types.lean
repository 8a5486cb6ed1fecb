import CollectionTypes.Proofs.Generator.Symbols
import CollectionTypes.Proofs.Text.Words
import CollectionTypes.TypeScript.Types

/-!
What a type in TypeScript names: the element it is made of, which is a word of the language or a
name that the symbols give for the property.
-/

namespace CollectionTypes.TypeScript

open Naming Text

def vocabulary : List String := ["string", "number", "boolean", "object", "null"]

def Element.name? : Element → Option String
  | .named name => some name
  | _ => none

def TypeExpr.element : TypeExpr → Element
  | .plain element | .array element | .emptyable element => element

theorem within_element {names : List String} {element : Element}
    (words : ∀ name ∈ element.name?, IsWord name ∧ name ∈ names) {rest : String}
    (stop : rest = "" ∨ opensWithMark rest.toList = true)
    (tail : Within vocabulary names rest) :
    Within vocabulary names (element.write ++ rest) := by
  cases element with
  | named name =>
      obtain ⟨word, member⟩ := words name rfl
      have dotted : ∀ letter ∈ name.toList, isDottedLetter letter = true := by
        intro letter inside
        simp [isDottedLetter, word.letters letter inside]
      exact within_name dotted (Or.inr member) stop tail
  | string | number | boolean | object =>
      exact within_name (List.all_eq_true.mp (by decide)) (Or.inl (by decide)) stop tail

theorem within_type {names : List String} {type : TypeExpr}
    (words : ∀ name ∈ type.element.name?, IsWord name ∧ name ∈ names) :
    Within vocabulary names type.write := by
  cases type with
  | plain element =>
      have whole := within_element words (Or.inl rfl) within_empty
      rwa [String.append_empty] at whole
  | array element =>
      exact within_element words (Or.inr (by decide)) (within_last (by decide))
  | emptyable element =>
      exact within_element words (Or.inr (by decide)) (within_last (by decide))

theorem element_of_compose (property : Property) (element : Element) :
    (compose property element).element = element := by
  unfold compose
  split
  · rfl
  · split <;> rfl

theorem resolved_element_names (symbols : Symbols) {property : Property}
    (relation : property.isRelation = true) :
    ∀ name ∈ (resolvedElement symbols property).name?,
      name ∈ symbols.referenced .typeScript property := by
  have kind : property.kind = .relation := eq_of_beq relation
  intro name member
  unfold resolvedElement at member
  split at member
  · rename_i collection target
    have same : symbols.typeName collection = name := Option.some.inj member
    simp [Symbols.referenced, kind, target, same]
  · contradiction

theorem element_type_names (style : Style) (symbols : Symbols) (property : Property) :
    ∀ name ∈ (elementType style symbols property).name?,
      name ∈ symbols.referenced .typeScript property := by
  intro name member
  unfold elementType at member
  cases kind : property.kind with
  | enumeration =>
      rw [kind] at member
      have same : symbols.enumName property = name := Option.some.inj member
      simp [Symbols.referenced, kind, same]
  | relation =>
      simp only [kind] at member
      split at member
      · contradiction
      · exact resolved_element_names symbols (by simp [Property.isRelation, kind]) name member
  | text | file | date | number | boolean | json =>
      rw [kind] at member
      contradiction

end CollectionTypes.TypeScript
