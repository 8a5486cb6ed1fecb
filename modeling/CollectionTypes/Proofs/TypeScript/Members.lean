import CollectionTypes.Proofs.Text.Pieces
import CollectionTypes.Proofs.Text.Quoted
import CollectionTypes.Proofs.TypeScript.Types
import CollectionTypes.TypeScript.Declaration

/-!
Interfaces read back from their text, line by line. The reader knows nothing of the model: a line
holds a key, bare or as a string literal, the mark of an optional member, and a type up to the
semicolon that ends the line. Types are compared as they are written; what their names refer to is
no part of this.
-/

namespace CollectionTypes.TypeScript

open Naming Text

/-- What a line says of its member. A key in quotes is the text that the literal stands for. -/
structure MemberLine where
  key : String
  optional : Bool
  type : String
deriving DecidableEq, Repr

def readKey (letters : List Char) : Option (List Char × List Char) :=
  match letters with
  | '"' :: _ => Quoted.readLiteral letters
  | _ =>
      let name := letters.takeWhile isNamePart
      if isIdentifierLetters name then some (name, letters.dropWhile isNamePart) else none

def readOptional : List Char → Bool × List Char
  | '?' :: rest => (true, rest)
  | rest => (false, rest)

/-- A type ends with the first semicolon, after which nothing may follow on the line. -/
def readType (letters : List Char) : Option (List Char) := do
  let type ← letters.dropPrefix? ": ".toList
  if type.dropWhile (· ≠ ';') = [';'] then some (type.takeWhile (· ≠ ';')) else none

def readMember (line : String) : Option MemberLine := do
  let letters ← line.toList.dropPrefix? Declaration.indent.toList
  let (key, afterKey) ← readKey letters
  let (optional, annotation) := readOptional afterKey
  let type ← readType annotation
  some ⟨String.ofList key, optional, String.ofList type⟩

theorem identifier_letters {name : String} (identifier : isIdentifier name = true) :
    ∀ letter ∈ name.toList, isNamePart letter = true := by
  cases letters : name.toList with
  | nil => simp
  | cons first rest =>
      simp only [isIdentifier, letters, isIdentifierLetters, Bool.and_eq_true,
        List.all_eq_true] at identifier
      intro letter member
      rcases List.mem_cons.mp member with rfl | later
      · simp [isNamePart, identifier.1]
      · exact identifier.2 letter later

/-- Whether a name stands bare or in quotes, it is read back, up to a letter of no name. -/
theorem read_key_of_property_name (name : String) {mark : Char} (stop : isNamePart mark = false)
    (rest : List Char) :
    readKey ((propertyName name).toList ++ mark :: rest) = some (name.toList, mark :: rest) := by
  by_cases bare : (isIdentifier name && !isReserved name) = true
  · have identifier : isIdentifier name = true := (Bool.and_eq_true_iff.mp bare).1
    obtain ⟨taken, left⟩ := run_until (identifier_letters identifier) mark stop rest
    have noQuote : ∀ following, name.toList ++ mark :: rest ≠ '"' :: following := by
      intro following same
      cases letters : name.toList with
      | nil => simp [isIdentifier, letters, isIdentifierLetters] at identifier
      | cons first letters' =>
          have part := identifier_letters identifier first (by simp [letters])
          rw [letters] at same
          rw [(List.cons.inj same).1] at part
          exact absurd part (by decide)
    have known : isIdentifierLetters name.toList = true := identifier
    rw [propertyName, if_pos bare, readKey]
    · simp only [taken, left, known, if_true]
    · exact noQuote
  · have literal : ∃ following, (Quoted.literal name).toList ++ mark :: rest = '"' :: following :=
      ⟨_, by simp [Quoted.literal, Quoted.literalLetters]; rfl⟩
    obtain ⟨following, opens⟩ := literal
    rw [propertyName, if_neg bare, opens, readKey, ← opens, Quoted.read_literal_append]

def isTypeLetter (letter : Char) : Bool := isWordLetter letter || "[]| \"".toList.contains letter

theorem type_letters {type : TypeExpr} (words : ∀ name ∈ type.element.name?, IsWord name) :
    ∀ letter ∈ type.write.toList, isTypeLetter letter = true := by
  have element (element : Element) (words : ∀ name ∈ element.name?, IsWord name) :
      ∀ letter ∈ element.write.toList, isTypeLetter letter = true := by
    cases element with
    | named name =>
        intro letter member
        simp [isTypeLetter, (words name rfl).letters letter member]
    | string | number | boolean | object => exact List.all_eq_true.mp (by decide)
  have marks {letters : List Char} (known : letters.all isTypeLetter = true) {held : String}
      (own : ∀ letter ∈ held.toList, isTypeLetter letter = true) :
      ∀ letter ∈ (held ++ String.ofList letters).toList, isTypeLetter letter = true := by
    intro letter member
    rw [String.toList_append, String.toList_ofList] at member
    exact (List.mem_append.mp member).elim (own letter) (List.all_eq_true.mp known letter)
  cases type with
  | plain held => exact element held words
  | array held => exact marks (by decide) (element held words)
  | emptyable held => exact marks (by decide) (element held words)

theorem read_type_of_write {type : String}
    (letters : ∀ letter ∈ type.toList, isTypeLetter letter = true) :
    readType (": ".toList ++ (type.toList ++ [';'])) = some type.toList := by
  have inside : ∀ letter ∈ type.toList, decide (letter ≠ ';') = true := by
    intro letter member
    rw [decide_eq_true_eq]
    rintro rfl
    exact absurd (letters ';' member) (by decide)
  obtain ⟨taken, left⟩ := run_until inside ';' (by decide) []
  simp only [readType, List.dropPrefix?_append_of_beq _ (beq_self_eq_true ": ".toList)]
  simp only [Option.bind_eq_bind, Option.bind_some, taken, left, if_true]

/-- What follows a key begins with no letter of a name, and tells whether the member is optional. -/
theorem read_optional_of_mark (optional : Bool) (type : List Char) :
    ∃ mark rest, isNamePart mark = false ∧
      (if optional then "?" else "").toList ++ (": ".toList ++ type) = mark :: rest ∧
      readOptional (mark :: rest) = (optional, ": ".toList ++ type) := by
  have colon : ": ".toList ++ type = ':' :: ' ' :: type := rfl
  cases optional with
  | true => exact ⟨'?', ": ".toList ++ type, by decide, rfl, rfl⟩
  | false => exact ⟨':', ' ' :: type, by decide, colon, rfl⟩

/-- A member is read off its own line, whatever its name. -/
theorem read_member_of_write {member : Member}
    (words : ∀ name ∈ member.type.element.name?, IsWord name) :
    readMember (Declaration.indent ++ member.write) =
      some ⟨member.name, member.optional, member.type.write⟩ := by
  have type := read_type_of_write (type_letters words)
  obtain ⟨mark, rest, stop, follows, optional⟩ :=
    read_optional_of_mark member.optional (member.type.write.toList ++ [';'])
  have line : (Declaration.indent ++ member.write).toList =
      Declaration.indent.toList ++ ((propertyName member.name).toList ++ mark :: rest) := by
    rw [← follows]
    simp [Member.write]
  have key := read_key_of_property_name member.name stop rest
  rw [readMember, line, List.dropPrefix?_append_of_beq _ (beq_self_eq_true _)]
  simp only [Option.bind_eq_bind, Option.bind_some, key, optional, type, String.ofList_toList]

theorem member_on_line {member : Member}
    (words : ∀ name ∈ member.type.element.name?, IsWord name) :
    '\n' ∉ (Declaration.indent ++ member.write).toList := by
  have type : '\n' ∉ member.type.write.toList := fun inside =>
    absurd (type_letters words '\n' inside) (by decide)
  have key : '\n' ∉ (propertyName member.name).toList := by
    by_cases bare : (isIdentifier member.name && !isReserved member.name) = true
    · rw [propertyName, if_pos bare]
      intro inside
      exact absurd (identifier_letters (Bool.and_eq_true_iff.mp bare).1 '\n' inside) (by decide)
    · rw [propertyName, if_neg bare]
      exact Quoted.literal_on_line member.name
  have mark : '\n' ∉ (if member.optional then "?" else "").toList := by
    cases member.optional <;> decide
  simp only [Declaration.indent, Member.write, String.toList_append, List.mem_append, not_or]
  exact ⟨by decide, ⟨⟨⟨key, mark⟩, by decide⟩, type⟩, by decide⟩

/-- The lines of an interface: its head, each member on a line of its own, and the last brace. -/
theorem lines_of_interface {name : String} (word : IsWord name) {members : List Member}
    (words : ∀ member ∈ members, ∀ name ∈ member.type.element.name?, IsWord name) :
    split '\n' (Declaration.interface name members).write =
      ("export interface " ++ name ++ " \x7b") ::
        (members.map (fun member => Declaration.indent ++ member.write) ++ ["\x7d"]) := by
  have head : '\n' ∉ ("export interface " ++ name ++ " \x7b").toList := by
    simp only [String.toList_append, List.mem_append, not_or]
    exact ⟨⟨by decide, word_on_line word⟩, by decide⟩
  have clean : ∀ line ∈ members.map fun member => Declaration.indent ++ member.write,
      '\n' ∉ line.toList := by
    intro line member
    obtain ⟨own, ownMember, rfl⟩ := List.mem_map.mp member
    exact member_on_line (words own ownMember)
  have text : (Declaration.interface name members).write =
      ("export interface " ++ name ++ " \x7b") ++ ("\n" ++ (String.join
        ((members.map fun member => Declaration.indent ++ member.write).map fun line =>
          line ++ "\n") ++ "\x7d")) := by
    have ends : " \x7b\n" = " \x7b" ++ "\n" := rfl
    rw [Declaration.write_interface, ends, List.map_map]
    simp only [String.append_assoc, -String.reduceAppend]
    rfl
  rw [text, split_block head clean "\x7d" (by decide)]

theorem interface_member_words {symbols : Symbols} (worded : symbols.Worded) (style : Style)
    (model : Model) : ∀ member ∈ interfaceMembers style symbols model,
      ∀ name ∈ member.type.element.name?, IsWord name := by
  intro member inInterface name inType
  rcases List.mem_append.mp inInterface with own | expansion
  · obtain ⟨property, _, rfl⟩ := List.mem_map.mp own
    rw [Member.ofProperty, typeOf, element_of_compose] at inType
    exact Symbols.referenced_are_words worded .typeScript property name
      (element_type_names style symbols property name inType)
  · split at expansion
    · rw [List.mem_singleton.mp expansion] at inType
      have expands : symbols.expandName model.name = name := Option.some.inj inType
      rw [← expands]
      exact is_word_append (worded.types model.name) (literal_is_word (by decide))
    · contradiction

theorem expansion_member_words {symbols : Symbols} (worded : symbols.Worded) (model : Model) :
    ∀ member ∈ model.relations.map (Member.ofExpansion symbols),
      ∀ name ∈ member.type.element.name?, IsWord name := by
  intro member inside name inType
  obtain ⟨property, relation, rfl⟩ := List.mem_map.mp inside
  rw [Member.ofExpansion, element_of_compose] at inType
  exact Symbols.referenced_are_words worded .typeScript property name
    (resolved_element_names symbols (List.mem_filter.mp relation).2 name inType)

theorem has_expand_member_iff (model : Model) :
    hasExpandMember model = true ↔
      (∃ property ∈ model.properties, property.kind = .relation) ∧
        ∀ property ∈ model.properties, property.name ≠ "expand" := by
  simp [hasExpandMember, Model.hasRelations, Model.relations, Model.hasProperty, expandField,
    Property.isRelation, List.filter_eq_nil_iff]

/-- No field is taken for the member of the expansion. -/
theorem member_names_nodup_iff (style : Style) (symbols : Symbols) (model : Model) :
    ((interfaceMembers style symbols model).map (·.name)).Nodup ↔
      (model.properties.map (·.name)).Nodup := by
  have own : (model.properties.map (Member.ofProperty style symbols)).map (·.name) =
      model.properties.map (·.name) := by
    rw [List.map_map]
    rfl
  rw [interfaceMembers, List.map_append, own]
  split
  · rename_i expands
    have apart := ((has_expand_member_iff model).mp expands).2
    have fresh : expandField ∉ model.properties.map (·.name) := by
      intro taken
      obtain ⟨property, member, same⟩ := List.mem_map.mp taken
      exact apart property member same
    constructor
    · exact fun distinct => (List.nodup_append'.mp distinct).1
    · intro distinct
      refine List.nodup_append'.mpr ⟨distinct, List.nodup_singleton _, ?_⟩
      intro name inModel isExpand
      rw [List.mem_singleton.mp isExpand] at inModel
      exact fresh inModel
  · rw [List.map_nil, List.append_nil]

/-- Whatever its fields are called, an interface has one line for each of them, in order, and one
for the expansion where that is no field's name; each line says its key, whether the member is
optional, and its type. Keys meet only where names of fields do. -/
theorem interface_reads_back (models : List Model) (target : Target) (style : Style)
    (model : Model) :
    let symbols := Symbols.ofModels models target
    let declaration := Declaration.interface (symbols.typeName model.name)
      (interfaceMembers style symbols model)
    declaration ∈ declarations style symbols model ∧
      ∃ lines, split '\n' declaration.write =
          ("export interface " ++ symbols.typeName model.name ++ " \x7b") ::
            (lines ++ ["\x7d"]) ∧
        lines.map readMember =
          model.properties.map (fun property => some ⟨property.name, property.optional,
            (typeOf style symbols property).write⟩) ++
          (if (∃ property ∈ model.properties, property.kind = .relation) ∧
              ∀ property ∈ model.properties, property.name ≠ "expand" then
            [some ⟨"expand", true, symbols.expandName model.name⟩] else []) ∧
        (((lines.filterMap readMember).map (·.key)).Nodup ↔
          (model.properties.map (·.name)).Nodup) := by
  intro symbols declaration
  have worded : symbols.Worded := Symbols.of_models_worded models target
  have words := interface_member_words worded style model
  let members := interfaceMembers style symbols model
  let lines := members.map fun member => Declaration.indent ++ member.write
  have read : lines.map readMember =
      members.map fun member => some ⟨member.name, member.optional, member.type.write⟩ := by
    rw [List.map_map]
    exact List.map_congr_left fun member inside => read_member_of_write (words member inside)
  refine ⟨?_, lines, lines_of_interface (worded.types model.name) words, ?_, ?_⟩
  · simp [declaration, declarations]
  · rw [read]
    simp only [members, interfaceMembers, List.map_append, List.map_map, ← has_expand_member_iff]
    congr 1
    split <;> rfl
  · have keys : (lines.filterMap readMember).map (·.key) = members.map (·.name) := by
      have held : lines.filterMap readMember = (lines.map readMember).filterMap id :=
        (List.filterMap_map (f := readMember) (g := id)).symm
      rw [held, read, List.filterMap_map]
      simp [Function.comp_def]
    rw [keys]
    exact member_names_nodup_iff style symbols model

end CollectionTypes.TypeScript
