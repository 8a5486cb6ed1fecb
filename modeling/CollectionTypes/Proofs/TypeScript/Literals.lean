import CollectionTypes.Proofs.Naming.Identifier
import CollectionTypes.Proofs.Text.Literals
import CollectionTypes.Proofs.TypeScript.Members

/-!
Where interfaces and enumerations hold texts of users: a key that is no identifier stands in a
string literal, as all values of an enumeration do. With the literals emptied, each declaration is
the one for empty keys and values. A key that stands bare is a name and remains where it is.
-/

namespace CollectionTypes.TypeScript

open Naming Text Quoted

def isBare (name : String) : Bool := isIdentifier name && !isReserved name

def bareKey (name : String) : String := if isBare name then name else ""

def quotedKey (name : String) : List String := if isBare name then [] else [name]

namespace TypeExpr

def literals : TypeExpr → List String
  | .emptyable _ => [""]
  | _ => []

end TypeExpr

namespace Member

def emptied (member : Member) : Member := { member with name := bareKey member.name }

def literals (member : Member) : List String := quotedKey member.name ++ member.type.literals

end Member

namespace Declaration

def emptied : Declaration → Declaration
  | .enumeration name members => .enumeration name (members.map fun member => (member.1, ""))
  | .interface name members => .interface name (members.map Member.emptied)

def literals : Declaration → List String
  | .enumeration _ members => members.map Prod.snd
  | .interface _ members => members.flatMap Member.literals

end Declaration

section Interface

variable {rest code : String} {values : List String}

theorem unquoted_of_bare {name : String} (bare : isBare name = true) : Unquoted name := by
  rw [Unquoted, isCode, List.all_eq_true]
  intro letter member
  rw [decide_eq_true_eq]
  rintro rfl
  exact absurd (identifier_letters (Bool.and_eq_true_iff.mp bare).1 '"' member) (by decide)

theorem dissects_property_name (name : String) (tail : Dissects rest code values) :
    Dissects (propertyName name ++ rest) (propertyName (bareKey name) ++ code)
      (quotedKey name ++ values) := by
  have quotes : propertyName "" = literal "" := by decide
  by_cases bare : isBare name = true
  · have own : propertyName name = name := if_pos bare
    rw [bareKey, quotedKey, if_pos bare, if_pos bare, own]
    exact dissects_text (unquoted_of_bare bare) tail
  · have own : propertyName name = literal name := if_neg bare
    rw [bareKey, quotedKey, if_neg bare, if_neg bare, own, quotes]
    exact dissects_literal name tail

theorem dissects_type {type : TypeExpr} (words : ∀ name ∈ type.element.name?, IsWord name)
    (tail : Dissects rest code values) :
    Dissects (type.write ++ rest) (type.write ++ code) (type.literals ++ values) := by
  have element {element : Element} (words : ∀ name ∈ element.name?, IsWord name) :
      Unquoted element.write := by
    cases element with
    | named name => exact unquoted_of_word (words name rfl)
    | string | number | boolean | object => decide
  cases type with
  | plain held => exact dissects_text (element words) tail
  | array held => exact dissects_text (unquoted_append (element words) (by decide)) tail
  | emptyable held =>
      have split : " | null | \"\"" = " | null | " ++ literal "" := by decide
      rw [TypeExpr.write, split]
      simp only [String.append_assoc, -String.reduceAppend]
      apply dissects_text (element words)
      apply dissects_code (by decide)
      exact dissects_literal "" tail

theorem Member.dissects_write {member : Member}
    (words : ∀ name ∈ member.type.element.name?, IsWord name) (tail : Dissects rest code values) :
    Dissects (member.write ++ rest) (member.emptied.write ++ code) (member.literals ++ values) := by
  have mark : Unquoted (if member.optional then "?" else "") := by
    cases member.optional <;> decide
  simp only [write, emptied, literals, String.append_assoc, List.append_assoc,
    -String.reduceAppend]
  apply dissects_property_name
  apply dissects_text mark
  apply dissects_code (by decide)
  apply dissects_type words
  exact dissects_code (by decide) tail

theorem dissects_members {members : List Member}
    (words : ∀ member ∈ members, ∀ name ∈ member.type.element.name?, IsWord name) :
    Dissects
      (String.join (members.map fun member => Declaration.indent ++ member.write ++ "\n") ++
        "\x7d")
      (String.join ((members.map Member.emptied).map fun member =>
        Declaration.indent ++ member.write ++ "\n") ++ "\x7d")
      (members.flatMap Member.literals) := by
  induction members with
  | nil => exact dissects_last (by decide)
  | cons member members induction =>
      obtain ⟨own, others⟩ := List.forall_mem_cons.mp words
      simp only [List.map_cons, String.join_cons, List.flatMap_cons, String.append_assoc,
        -String.reduceAppend]
      apply dissects_text (by decide)
      apply Member.dissects_write own
      exact dissects_code (by decide) (induction others)

theorem dissects_interface {name : String} (word : IsWord name) {members : List Member}
    (words : ∀ member ∈ members, ∀ name ∈ member.type.element.name?, IsWord name) :
    Dissects (Declaration.interface name members).write
      (Declaration.interface name members).emptied.write
      (Declaration.interface name members).literals := by
  simp only [Declaration.emptied, Declaration.write_interface, String.append_assoc,
    -String.reduceAppend]
  apply dissects_code (by decide)
  apply dissects_text (unquoted_of_word word)
  apply dissects_code (by decide)
  have body := dissects_members words
  simp only [String.append_assoc, -String.reduceAppend] at body
  exact body

end Interface

section Enumeration

theorem dissects_enum_members {members : List (String × String)}
    (words : ∀ member ∈ members, IsWord member.1) :
    Dissects (",\n".intercalate (members.map Declaration.enumMemberText) ++ "\n\x7d")
      (",\n".intercalate ((members.map fun member => (member.1, "")).map
        Declaration.enumMemberText) ++ "\n\x7d") (members.map Prod.snd) := by
  induction members with
  | nil => exact dissects_last (by decide)
  | cons member members induction =>
      obtain ⟨own, others⟩ := List.forall_mem_cons.mp words
      have tail := induction others
      cases members with
      | nil =>
          simp only [List.map_cons, List.map_nil, String.intercalate_singleton,
            Declaration.enumMemberText, String.append_assoc, -String.reduceAppend]
          apply dissects_text (by decide)
          apply dissects_text (unquoted_of_word own)
          apply dissects_code (by decide)
          exact dissects_literal member.2 (dissects_last (by decide))
      | cons next members =>
          simp only [List.map_cons, String.intercalate_cons_cons, Declaration.enumMemberText,
            String.append_assoc, -String.reduceAppend] at tail ⊢
          apply dissects_text (by decide)
          apply dissects_text (unquoted_of_word own)
          apply dissects_code (by decide)
          apply dissects_literal member.2
          exact dissects_code (by decide) tail

theorem dissects_enumeration {name : String} (word : IsWord name)
    {members : List (String × String)} (words : ∀ member ∈ members, IsWord member.1) :
    Dissects (Declaration.enumeration name members).write
      (Declaration.enumeration name members).emptied.write
      (Declaration.enumeration name members).literals := by
  cases members with
  | nil =>
      simp only [Declaration.emptied, List.map_nil, Declaration.write_empty_enumeration,
        String.append_assoc, -String.reduceAppend]
      apply dissects_code (by decide)
      exact dissects_text (unquoted_of_word word) (dissects_last (by decide))
  | cons member members =>
      have body := dissects_enum_members words
      simp only [Declaration.emptied, List.map_cons, Declaration.write_enumeration,
        String.append_assoc, -String.reduceAppend] at body ⊢
      apply dissects_code (by decide)
      apply dissects_text (unquoted_of_word word)
      exact dissects_code (by decide) body

end Enumeration

theorem dissects_enum_declaration {symbols : Symbols} (worded : symbols.Worded)
    (property : Property) :
    let declaration := enumDeclaration symbols property
    Dissects declaration.write declaration.emptied.write declaration.literals := by
  apply dissects_enumeration (worded.enums property)
  intro member inside
  have names := unique_enum_members_are_identifiers property.options
  exact (names member.1 (List.of_mem_zip inside).1).toIsWord

/-- Every declaration of a model is, but for its literals, the one with these emptied. -/
theorem dissects_declarations {symbols : Symbols} (worded : symbols.Worded) (style : Style)
    (model : Model) : ∀ declaration ∈ declarations style symbols model,
      Dissects declaration.write declaration.emptied.write declaration.literals := by
  intro declaration member
  rcases List.mem_append.mp member with before | expansion
  · rcases List.mem_append.mp before with enumeration | own
    · obtain ⟨property, _, rfl⟩ := List.mem_map.mp enumeration
      exact dissects_enum_declaration worded property
    · rw [List.mem_singleton.mp own]
      exact dissects_interface (worded.types model.name)
        (interface_member_words worded style model)
  · split at expansion
    · rw [List.mem_singleton.mp expansion]
      exact dissects_interface
        (is_word_append (worded.types model.name) (literal_is_word (by decide)))
        (expansion_member_words worded model)
    · contradiction

end CollectionTypes.TypeScript
