import CollectionTypes.Generator.Basic
import CollectionTypes.Proofs.Generator.Symbols
import CollectionTypes.Proofs.Naming.Identifier
import CollectionTypes.Proofs.Text.Pieces
import CollectionTypes.Proofs.Text.Quoted

/-!
Enumerations read back from their text, in both languages. A reader takes the head of a declaration
and then line after line, each with a name and a string literal; it is told the punctuation of its
language and nothing else. Members in TypeScript may be reserved words, as the language allows.
-/

namespace CollectionTypes.Text

def readNamed (isPart : Char → Bool) (lead ending line : String) : Option String := do
  let letters ← line.toList.dropPrefix? lead.toList
  if letters.dropWhile isPart = ending.toList then some (String.ofList (letters.takeWhile isPart))
  else none

def readAssigned (isPart : Char → Bool) (lead middle ending line : String) :
    Option (String × String) := do
  let letters ← line.toList.dropPrefix? lead.toList
  let assigned ← (letters.dropWhile isPart).dropPrefix? middle.toList
  let (value, after) ← Quoted.readLiteral assigned
  if after = ending.toList then
    some (String.ofList (letters.takeWhile isPart), String.ofList value)
  else none

def Stops (isPart : Char → Bool) (text : String) : Prop :=
  ∃ mark rest, text.toList = mark :: rest ∧ isPart mark = false

section Lines

variable {isPart : Char → Bool} {name : String}

theorem read_named (parts : ∀ letter ∈ name.toList, isPart letter = true) (lead : String)
    {ending : String} (stops : Stops isPart ending) :
    readNamed isPart lead ending (lead ++ name ++ ending) = some name := by
  obtain ⟨mark, rest, ends, stop⟩ := stops
  obtain ⟨taken, left⟩ := run_until parts mark stop rest
  have line : (lead ++ name ++ ending).toList = lead.toList ++ (name.toList ++ mark :: rest) := by
    simp [ends]
  rw [readNamed, line, List.dropPrefix?_append_of_beq _ (beq_self_eq_true _)]
  simp only [Option.bind_eq_bind, Option.bind_some, taken, left, ends, if_true,
    String.ofList_toList]

theorem read_assigned (parts : ∀ letter ∈ name.toList, isPart letter = true) (lead : String)
    {middle : String} (stops : Stops isPart middle) (value ending : String) :
    readAssigned isPart lead middle ending
      (lead ++ name ++ middle ++ Quoted.literal value ++ ending) = some (name, value) := by
  obtain ⟨mark, rest, follows, stop⟩ := stops
  let tail := (Quoted.literal value).toList ++ ending.toList
  obtain ⟨taken, left⟩ := run_until parts mark stop (rest ++ tail)
  have line : (lead ++ name ++ middle ++ Quoted.literal value ++ ending).toList =
      lead.toList ++ (name.toList ++ mark :: (rest ++ tail)) := by
    simp [follows, tail]
  have assigned : mark :: (rest ++ tail) = middle.toList ++ tail := by
    rw [follows]
    rfl
  rw [readAssigned, line, List.dropPrefix?_append_of_beq _ (beq_self_eq_true _)]
  simp only [Option.bind_eq_bind, Option.bind_some, taken, left]
  rw [assigned, List.dropPrefix?_append_of_beq _ (beq_self_eq_true _)]
  simp only [Option.bind_some, tail, Quoted.read_literal_append, if_true, String.ofList_toList]

end Lines

end CollectionTypes.Text

namespace CollectionTypes.TypeScript

open Naming Text

def readEnumMember (ending : String) (line : String) : Option (String × String) :=
  readAssigned isNamePart Declaration.indent " = " ending line

/-- Members up to the last brace, with a comma after all but the last of them. -/
def readEnumMembers : List String → Option (List (String × String))
  | [] => none
  | line :: rest =>
      if rest = ["\x7d"] then (readEnumMember "" line).map fun member => [member]
      else do
        let member ← readEnumMember "," line
        let members ← readEnumMembers rest
        some (member :: members)

def readEnumeration (text : String) : Option (String × List (String × String)) :=
  match split '\n' text with
  | [] => none
  | [line] => (readNamed isNamePart "export enum " " \x7b\x7d" line).map fun name => (name, [])
  | line :: rest => do
      let name ← readNamed isNamePart "export enum " " \x7b" line
      let members ← readEnumMembers rest
      some (name, members)

def enumMemberLines : List (String × String) → List String
  | [] => []
  | [member] => [Declaration.enumMemberText member]
  | member :: members => (Declaration.enumMemberText member ++ ",") :: enumMemberLines members

theorem enum_member_lines_cons (member next : String × String)
    (members : List (String × String)) :
    enumMemberLines (member :: next :: members) =
      (Declaration.enumMemberText member ++ ",") :: enumMemberLines (next :: members) := rfl

section Enumeration

variable {name : String} {members : List (String × String)}

theorem enum_member_on_line {member : String × String} (word : IsWord member.1) :
    '\n' ∉ (Declaration.enumMemberText member).toList := by
  have own := word_on_line word
  have value := Quoted.literal_on_line member.2
  simp only [Declaration.enumMemberText, Declaration.indent, String.toList_append,
    List.mem_append, not_or]
  exact ⟨⟨⟨by decide, own⟩, by decide⟩, value⟩

theorem enum_member_lines_ne_nil (member : String × String) (members : List (String × String)) :
    enumMemberLines (member :: members) ≠ [] := by
  cases members <;> simp [enumMemberLines]

/-- Members stand one to a line. -/
theorem enum_members_text (some : members ≠ []) :
    ",\n".intercalate (members.map Declaration.enumMemberText) ++ "\n" =
      String.join ((enumMemberLines members).map fun line => line ++ "\n") := by
  induction members with
  | nil => exact absurd rfl some
  | cons member members induction =>
      cases members with
      | nil => simp [enumMemberLines, String.join_cons]
      | cons next members =>
          have line : Declaration.enumMemberText member ++ "," ++ "\n" =
              Declaration.enumMemberText member ++ ",\n" := String.append_assoc
          have tail := induction (List.cons_ne_nil _ _)
          rw [List.map_cons] at tail
          rw [List.map_cons, List.map_cons, String.intercalate_cons_cons, String.append_assoc,
            tail, enum_member_lines_cons, List.map_cons, String.join_cons, line]

theorem enum_member_lines_clean (words : ∀ member ∈ members, IsWord member.1) :
    ∀ line ∈ enumMemberLines members, '\n' ∉ line.toList := by
  induction members with
  | nil => simp [enumMemberLines]
  | cons member members induction =>
      have clean := enum_member_on_line (words member (List.mem_cons_self ..))
      have tail := induction fun other inside => words other (List.mem_cons_of_mem _ inside)
      cases members with
      | nil => simpa [enumMemberLines] using clean
      | cons next members =>
          rw [enum_member_lines_cons, List.forall_mem_cons]
          refine ⟨?_, tail⟩
          simp only [String.toList_append, List.mem_append, not_or]
          exact ⟨clean, by decide⟩

theorem read_enum_members (some : members ≠ []) (words : ∀ member ∈ members, IsWord member.1) :
    readEnumMembers (enumMemberLines members ++ ["\x7d"]) = .some members := by
  have stops : Stops isNamePart " = " := ⟨' ', _, rfl, by decide⟩
  have read (member : String × String) (word : IsWord member.1) (ending : String) :
      readEnumMember ending (Declaration.enumMemberText member ++ ending) = .some member :=
    read_assigned (name_parts word) Declaration.indent stops member.2 ending
  induction members with
  | nil => exact absurd rfl some
  | cons member members induction =>
      have word := words member (List.mem_cons_self ..)
      cases members with
      | nil =>
          have last := read member word ""
          rw [String.append_empty] at last
          simp only [enumMemberLines, List.singleton_append, readEnumMembers, if_true, last,
            Option.map_some]
      | cons next members =>
          have tail := induction (List.cons_ne_nil _ _) fun other inside =>
            words other (List.mem_cons_of_mem _ inside)
          have more : enumMemberLines (next :: members) ++ ["\x7d"] ≠ ["\x7d"] := by
            intro same
            exact enum_member_lines_ne_nil next members (List.append_left_eq_self.mp same)
          rw [enum_member_lines_cons, List.cons_append, readEnumMembers, if_neg more,
            read member word, tail]
          rfl

theorem read_enumeration_of_write (word : IsWord name)
    (words : ∀ member ∈ members, IsWord member.1) :
    readEnumeration (Declaration.enumeration name members).write = some (name, members) := by
  have head (ending : String) (clean : '\n' ∉ ending.toList) :
      '\n' ∉ ("export enum " ++ name ++ ending).toList := by
    simp only [String.toList_append, List.mem_append, not_or]
    exact ⟨⟨by decide, word_on_line word⟩, clean⟩
  cases held : members with
  | nil =>
      have stops : Stops isNamePart " \x7b\x7d" := ⟨' ', _, rfl, by decide⟩
      have alone := split_single (head " \x7b\x7d" (by decide))
      rw [Declaration.write_empty_enumeration, readEnumeration, alone]
      simp only [read_named (name_parts word) "export enum " stops, Option.map_some]
  | cons member rest =>
      have some : members ≠ [] := by simp [held]
      have stops : Stops isNamePart " \x7b" := ⟨' ', _, rfl, by decide⟩
      have text : (Declaration.enumeration name members).write =
          ("export enum " ++ name ++ " \x7b") ++ ("\n" ++ (String.join
            ((enumMemberLines members).map fun line => line ++ "\n") ++ "\x7d")) := by
        have opens : " \x7b\n" = " \x7b" ++ "\n" := rfl
        have closes : "\n\x7d" = "\n" ++ "\x7d" := rfl
        rw [← enum_members_text some, held, Declaration.write_enumeration, opens, closes]
        simp only [String.append_assoc, -String.reduceAppend]
      have lines := split_block (head " \x7b" (by decide)) (enum_member_lines_clean words)
        "\x7d" (by decide)
      rw [← text] at lines
      have nonempty : ∃ first later, enumMemberLines members ++ ["\x7d"] = first :: later :=
        List.exists_cons_of_ne_nil (by simp)
      obtain ⟨first, later, more⟩ := nonempty
      have read := read_enum_members some words
      rw [more] at lines read
      rw [← held, readEnumeration, lines]
      simp only [read_named (name_parts word) "export enum " stops, read, Option.bind_eq_bind,
        Option.bind_some]

end Enumeration

end CollectionTypes.TypeScript

namespace CollectionTypes.Go

open Naming Text

def readConstant (typeName line : String) : Option (String × String) :=
  readAssigned isWordLetter "\t" (" " ++ typeName ++ " = ") "" line

def readConstants (typeName : String) : List String → Option (List (String × String))
  | [] => none
  | line :: rest =>
      if line = ")" then if rest = [] then some [] else none
      else do
        let constant ← readConstant typeName line
        let constants ← readConstants typeName rest
        some (constant :: constants)

def readEnumeration (text : String) : Option (String × List (String × String)) :=
  match split '\n' text with
  | [] => none
  | line :: rest => do
      let name ← readNamed isWordLetter "type " " string" line
      if rest = [] then some (name, [])
      else
        let lines ← rest.dropPrefix? ["", "const ("]
        let constants ← readConstants name lines
        some (name, constants)

def constantLine (typeName : String) (constant : String × String) : String :=
  "\t" ++ constant.1 ++ " " ++ typeName ++ " = " ++ Quoted.literal constant.2

section Enumeration

variable {typeName : String} {constants : List (String × String)}

theorem constant_line_clean (typeWord : IsWord typeName) {constant : String × String}
    (word : IsWord constant.1) : '\n' ∉ (constantLine typeName constant).toList := by
  have inType := word_on_line typeWord
  have own := word_on_line word
  have value := Quoted.literal_on_line constant.2
  simp only [constantLine, String.toList_append, List.mem_append, not_or]
  exact ⟨⟨⟨⟨⟨by decide, own⟩, by decide⟩, inType⟩, by decide⟩, value⟩

theorem constant_line_ne_end (constant : String × String) :
    constantLine typeName constant ≠ ")" := by
  intro same
  have first := congrArg (fun line => line.toList.head?) same
  simp [constantLine] at first

theorem read_constant_of_line {constant : String × String} (word : IsWord constant.1) :
    readConstant typeName (constantLine typeName constant) = some constant := by
  have stops : Stops isWordLetter (" " ++ typeName ++ " = ") :=
    ⟨' ', _, by simp; rfl, by decide⟩
  have read := read_assigned word.letters "\t" stops constant.2 ""
  have line : constantLine typeName constant =
      "\t" ++ constant.1 ++ (" " ++ typeName ++ " = ") ++ Quoted.literal constant.2 ++ "" := by
    simp only [constantLine, String.append_assoc, String.append_empty]
  rw [readConstant, line, read]

theorem read_constants_of_lines (words : ∀ constant ∈ constants, IsWord constant.1) :
    readConstants typeName (constants.map (constantLine typeName) ++ [")"]) = some constants := by
  induction constants with
  | nil => simp [readConstants]
  | cons constant constants induction =>
      have tail := induction fun other inside => words other (List.mem_cons_of_mem _ inside)
      rw [List.map_cons, List.cons_append, readConstants, if_neg (constant_line_ne_end constant),
        read_constant_of_line (words constant (List.mem_cons_self ..)), tail]
      rfl

theorem read_enumeration_of_write {enumeration : Enumeration} (typeWord : IsWord enumeration.name)
    (words : ∀ constant ∈ enumeration.constants, IsWord constant.1) :
    readEnumeration enumeration.write = some (enumeration.name, enumeration.constants) := by
  have stops : Stops isWordLetter " string" := ⟨' ', _, rfl, by decide⟩
  have head : '\n' ∉ ("type " ++ enumeration.name ++ " string").toList := by
    simp only [String.toList_append, List.mem_append, not_or]
    exact ⟨⟨by decide, word_on_line typeWord⟩, by decide⟩
  have named := read_named typeWord.letters "type " stops
  cases held : enumeration.constants with
  | nil =>
      have text : enumeration.write = "type " ++ enumeration.name ++ " string" := by
        simp [Enumeration.write, held]
      rw [readEnumeration, text, split_single head]
      simp only [named, Option.bind_eq_bind, Option.bind_some, if_true]
  | cons constant rest =>
      let lines := enumeration.constants.map (constantLine enumeration.name)
      have text : enumeration.write = ("type " ++ enumeration.name ++ " string") ++ ("\n" ++
          (String.join (("" :: "const (" :: lines).map fun line => line ++ "\n") ++ ")")) := by
        have opens : "\n\nconst (\n" = "\n" ++ ("" ++ "\n") ++ ("const (" ++ "\n") := rfl
        have texts : enumeration.constants.map (Enumeration.constantText enumeration.name) =
            lines.map fun line => line ++ "\n" := by
          rw [List.map_map]
          rfl
        rw [List.map_cons, List.map_cons, String.join_cons, String.join_cons, ← texts]
        simp only [Enumeration.write, held, opens, String.append_assoc, -String.reduceAppend]
      have clean : ∀ line ∈ "" :: "const (" :: lines, '\n' ∉ line.toList := by
        simp only [List.forall_mem_cons]
        refine ⟨by decide, by decide, ?_⟩
        intro line member
        obtain ⟨own, ownMember, rfl⟩ := List.mem_map.mp member
        exact constant_line_clean typeWord (words own ownMember)
      have split := split_block head clean ")" (by decide)
      have read : readConstants enumeration.name (lines ++ [")"]) = some enumeration.constants :=
        read_constants_of_lines words
      rw [readEnumeration, text, split]
      simp only [named, Option.bind_eq_bind, Option.bind_some, List.cons_append]
      simp [List.dropPrefix?, read, held]

end Enumeration

end CollectionTypes.Go

namespace CollectionTypes.Generator

open Naming

/-- The name of an enumeration can be declared in either language. -/
theorem enum_name_is_identifier (models : List Model) (target : Target) (property : Property) :
    IsIdentifier ((Symbols.ofModels models target).enumName property) ∧
      'O' ∈ ((Symbols.ofModels models target).enumName property).toList := by
  obtain ⟨suffix, named⟩ := Symbols.name_is_candidate models target (.enumeration property)
  have name : (Symbols.ofModels models target).enumName property =
      Namespace.candidate (Go.exportedName property.enumTypeName) suffix := named
  have capital := Go.capital_in_exported_name (capital_in_enum_type_name property)
  rw [name]
  refine ⟨candidate_is_identifier (Go.exported_name_is_identifier _) suffix, ?_⟩
  unfold Namespace.candidate
  split
  · exact capital
  · rw [String.toList_append]
    exact List.mem_append_left _ capital

theorem zip_names_and_options {names options : List String}
    (length : names.length = options.length) :
    (names.zip options).map Prod.fst = names ∧ (names.zip options).map Prod.snd = options :=
  ⟨List.map_fst_zip length.le, List.map_snd_zip length.ge⟩

/-- What an enumeration in TypeScript has for its options. -/
theorem enum_members_cover (options : List String) :
    (TypeScript.enumMembers options).map Prod.snd = options ∧
      ((TypeScript.enumMembers options).map Prod.fst).Nodup ∧
      ∀ member ∈ TypeScript.enumMembers options, IsIdentifier member.1 := by
  obtain ⟨names, values⟩ :=
    zip_names_and_options (unique_names_length TypeScript.enumMember options)
  refine ⟨values, ?_, ?_⟩
  · rw [TypeScript.enumMembers, names]
    exact unique_names_nodup _ _
  · exact fun member inside => TypeScript.unique_enum_members_are_identifiers options member.1
      (List.of_mem_zip inside).1

/-- What an enumeration in Go has for its options. Its name has to hold the capital that keeps the
names of its constants from being reserved. -/
theorem constants_cover {typeName : String} (identifier : IsIdentifier typeName)
    (capital : 'O' ∈ typeName.toList) (options : List String) :
    let constants := (Go.constantNames typeName options).zip options
    constants.map Prod.snd = options ∧ (constants.map Prod.fst).Nodup ∧
      ∀ constant ∈ constants, Go.isIdentifier constant.1 = true ∧
        typeName.toList <+: constant.1.toList ∧ constant.1 ≠ typeName := by
  intro constants
  obtain ⟨names, values⟩ := zip_names_and_options (Go.constant_names_length typeName options)
  refine ⟨values, ?_, ?_⟩
  · rw [names]
    exact Go.constant_names_nodup _ _
  · intro constant inside
    have member := (List.of_mem_zip inside).1
    have other : constant.1 ≠ typeName := fun same =>
      Go.type_name_not_constant typeName options (same ▸ member)
    rw [Go.constant_names_eq] at member
    obtain ⟨own, ownMember, extended⟩ := List.mem_map.mp member
    have ownWord := Go.unique_exported_names_are_words options own ownMember
    rw [← extended] at other ⊢
    refine ⟨?_, ?_, other⟩
    · apply Go.identifier_with_capital (is_identifier_append identifier ownWord.letters)
      rw [String.toList_append]
      exact List.mem_append_left _ capital
    · rw [String.toList_append]
      exact List.prefix_append _ _

/-- Each option of an enumeration is read back off its text, in order, under a name of its own: an
identifier, and in Go one that goes on after the name of the type. -/
theorem options_read_back (models : List Model) (target : Target) (property : Property) :
    let symbols := Symbols.ofModels models target
    let typeName := symbols.enumName property
    (∃ members,
      TypeScript.readEnumeration (TypeScript.enumDeclaration symbols property).write =
          some (typeName, members) ∧
        members.map Prod.snd = property.options ∧
        (members.map Prod.fst).Nodup ∧
        ∀ member ∈ members, TypeScript.isIdentifier member.1 = true) ∧
    ∃ constants,
      Go.readEnumeration (Go.Enumeration.ofProperty symbols property).write =
          some (typeName, constants) ∧
        constants.map Prod.snd = property.options ∧
        (constants.map Prod.fst).Nodup ∧
        ∀ constant ∈ constants, Go.isIdentifier constant.1 = true ∧
          typeName.toList <+: constant.1.toList ∧ constant.1 ≠ typeName := by
  intro symbols typeName
  obtain ⟨identifier, capital⟩ := enum_name_is_identifier models target property
  constructor
  · obtain ⟨options, distinct, members⟩ := enum_members_cover property.options
    refine ⟨TypeScript.enumMembers property.options, ?_, options, distinct, ?_⟩
    · exact TypeScript.read_enumeration_of_write identifier.toIsWord fun member inside =>
        (members member inside).toIsWord
    · exact fun member inside => TypeScript.identifier_of_is_identifier (members member inside)
  · obtain ⟨options, distinct, constants⟩ := constants_cover identifier capital property.options
    refine ⟨(Go.constantNames typeName property.options).zip property.options, ?_, options,
      distinct, constants⟩
    exact Go.read_enumeration_of_write identifier.toIsWord fun constant inside =>
      Go.constant_names_are_words identifier.toIsWord _ _ (List.of_mem_zip inside).1

end CollectionTypes.Generator
