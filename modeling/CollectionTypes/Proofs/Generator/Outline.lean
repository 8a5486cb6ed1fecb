import CollectionTypes.Generator.Basic
import CollectionTypes.Proofs.Generator.Symbols
import CollectionTypes.Proofs.Text.Pieces
import CollectionTypes.Proofs.Text.Quoted
import Mathlib.Data.List.Basic

/-!
The names that a block of an output declares, read off its text: the word after the keyword at its
head, and after an enumeration in Go the word at the head of each constant. What stands inside an
interface or a function declares nothing at the top level and is not read. Nor is the inside of a
struct, where this is so only as long as no tag holds a backquote: a backquote ends the tag, and
what the key has behind it stands in the open.
-/

namespace CollectionTypes.Outline

open Naming

def keywords : List String := ["export interface ", "export enum ", "type ", "const ", "func "]

def afterKeyword? (letters : List Char) : Option (List Char) :=
  keywords.findSome? fun keyword => letters.dropPrefix? keyword.toList

def constantsHead : String := " string\n\nconst (\n"

def constantOfLine : List Char → List String
  | '\t' :: rest => [String.ofList (rest.takeWhile isWordLetter)]
  | _ => []

def constantsAfter (letters : List Char) : List String :=
  match letters.dropPrefix? constantsHead.toList with
  | some constants => (Text.pieces (· = '\n') constants).flatMap constantOfLine
  | none => []

/-- The names that a block declares at the top level; a method declares none. -/
def declaredIn (block : String) : List String :=
  match afterKeyword? block.toList with
  | some letters =>
      let name := letters.takeWhile isWordLetter
      if name.isEmpty then []
      else String.ofList name :: constantsAfter (letters.dropWhile isWordLetter)
  | none => []

theorem after_keyword_append {keyword : String} (known : keyword ∈ keywords)
    (letters : List Char) : afterKeyword? (keyword.toList ++ letters) = some letters := by
  simp only [keywords, List.mem_cons, List.not_mem_nil, or_false] at known
  rcases known with rfl | rfl | rfl | rfl | rfl <;>
    simp [afterKeyword?, keywords, List.dropPrefix?]

theorem take_word {name : String} (word : IsWord name) {mark : Char}
    (stop : isWordLetter mark = false) (rest : List Char) :
    (name.toList ++ mark :: rest).takeWhile isWordLetter = name.toList ∧
      (name.toList ++ mark :: rest).dropWhile isWordLetter = mark :: rest :=
  Text.run_until word.letters mark stop rest

/-- A block declares the word after its keyword, and the constants after that word. -/
theorem declared_in_named_block {keyword name : String} (known : keyword ∈ keywords)
    (word : IsWord name) (tail : String) (mark : Char) (stop : isWordLetter mark = false)
    {rest : List Char} (follows : tail.toList = mark :: rest) :
    declaredIn (keyword ++ name ++ tail) = name :: constantsAfter tail.toList := by
  have letters : (keyword ++ name ++ tail).toList =
      keyword.toList ++ (name.toList ++ mark :: rest) := by
    rw [String.toList_append, String.toList_append, follows, List.append_assoc]
  obtain ⟨taken, left⟩ := take_word word stop rest
  have nonempty : name.toList.isEmpty = false := by
    rw [List.isEmpty_eq_false_iff]
    exact fun empty => word.nonempty (String.toList_inj.mp empty)
  simp only [declaredIn, letters, after_keyword_append known, taken, left, nonempty, follows]
  simp

def opensPlainly (head : String) : Bool :=
  head.toList.head?.any (fun mark => !isWordLetter mark) &&
    (head.toList.zip constantsHead.toList).any fun pair => pair.1 != pair.2

theorem drop_prefix_of_mismatch {letters lead : List Char}
    (mismatch : (letters.zip lead).any (fun pair => pair.1 != pair.2) = true) (rest : List Char) :
    (letters ++ rest).dropPrefix? lead = none := by
  induction letters generalizing lead with
  | nil => simp at mismatch
  | cons first letters induction =>
      cases lead with
      | nil => simp at mismatch
      | cons expected lead =>
          rw [List.cons_append, List.dropPrefix?]
          by_cases same : first = expected
          · rw [if_pos (by simpa using same)]
            apply induction
            simpa [same] using mismatch
          · rw [if_neg (by simpa using same)]

theorem declared_in_plain_block {keyword name head : String} (known : keyword ∈ keywords)
    (word : IsWord name) (plain : opensPlainly head = true) (rest : String) :
    declaredIn (keyword ++ (name ++ (head ++ rest))) = [name] := by
  rw [← String.append_assoc]
  obtain ⟨ends, mismatch⟩ := Bool.and_eq_true_iff.mp plain
  cases letters : head.toList with
  | nil => simp [letters] at ends
  | cons mark tail =>
      have stop : isWordLetter mark = false := by simpa [letters] using ends
      rw [declared_in_named_block known word (head ++ rest) mark stop
        (by rw [String.toList_append, letters]; rfl), constantsAfter, String.toList_append,
        drop_prefix_of_mismatch mismatch]

theorem declared_in_method (receiver : String) (method : Go.Method) :
    declaredIn (method.write receiver) = [] := by
  have opening : ∃ tail, (method.write receiver).toList =
      "func ".toList ++ '(' :: tail := by
    cases method <;>
      simp [Go.Method.write, Go.Method.head]
  obtain ⟨tail, letters⟩ := opening
  have known : "func " ∈ keywords := by decide
  simp only [declaredIn, letters, after_keyword_append known]
  rfl

theorem constant_of_text {typeName : String} (typeWord : IsWord typeName)
    {constant : String × String} (word : IsWord constant.1) :
    ∃ line, (Go.Enumeration.constantText typeName constant).toList = line ++ ['\n'] ∧
      '\n' ∉ line ∧ constantOfLine line = [constant.1] := by
  refine ⟨'\t' :: (constant.1.toList ++ ' ' :: (typeName.toList ++ " = ".toList ++
    (Text.Quoted.literal constant.2).toList)), ?_, ?_, ?_⟩
  · simp [Go.Enumeration.constantText]
  · have ownLine := word_on_line word
    have typeLine := word_on_line typeWord
    have literalLine := Text.Quoted.literal_on_line constant.2
    simp [ownLine, typeLine, literalLine]
  · have stop : isWordLetter ' ' = false := by decide
    rw [constantOfLine, (take_word word stop _).1, String.ofList_toList]

/-- The constants of an enumeration are read off its text in order. -/
theorem constants_after_texts {typeName : String} (typeWord : IsWord typeName)
    (constants : List (String × String)) (words : ∀ constant ∈ constants, IsWord constant.1) :
    (Text.pieces (· = '\n') ((constants.map (Go.Enumeration.constantText typeName)).flatMap
      String.toList ++ [')'])).flatMap constantOfLine = constants.map Prod.fst := by
  induction constants with
  | nil => rfl
  | cons constant constants induction =>
      obtain ⟨line, text, onLine, reads⟩ :=
        constant_of_text typeWord (words constant (List.mem_cons_self ..))
      have tail := induction fun other member => words other (List.mem_cons_of_mem _ member)
      simp only [List.map_cons, List.flatMap_cons, text, List.append_assoc, List.cons_append,
        List.nil_append]
      rw [Text.pieces_append_separator (Text.no_separator onLine) '\n' (by decide),
        List.flatMap_cons, reads, tail]
      rfl

theorem declared_in_go_enumeration (enumeration : Go.Enumeration)
    (typeWord : IsWord enumeration.name)
    (words : ∀ constant ∈ enumeration.constants, IsWord constant.1) :
    declaredIn enumeration.write =
      enumeration.name :: enumeration.constants.map Prod.fst := by
  have known : "type " ∈ keywords := by decide
  cases held : enumeration.constants with
  | nil =>
      have text : enumeration.write = "type " ++ enumeration.name ++ " string" := by
        simp [Go.Enumeration.write, held]
      rw [text, declared_in_named_block known typeWord " string" ' ' (by decide) rfl]
      simp [constantsAfter, constantsHead, List.dropPrefix?]
  | cons constant constants =>
      have text : enumeration.write = "type " ++ enumeration.name ++ (constantsHead ++
          (String.join (enumeration.constants.map
            (Go.Enumeration.constantText enumeration.name)) ++ ")")) := by
        have head : constantsHead = " string" ++ "\n\nconst (\n" := rfl
        simp only [Go.Enumeration.write, held, head, String.append_assoc]
      have follows : ∃ rest, (constantsHead ++ (String.join (enumeration.constants.map
          (Go.Enumeration.constantText enumeration.name)) ++ ")")).toList = ' ' :: rest :=
        ⟨_, by rw [String.toList_append]; rfl⟩
      obtain ⟨rest, follows⟩ := follows
      rw [text, declared_in_named_block known typeWord _ ' ' (by decide) follows, ← held,
        constantsAfter, String.toList_append, List.dropPrefix?_append_of_beq _ (by simp),
        String.toList_append, String.toList_join]
      congr 1
      exact constants_after_texts typeWord enumeration.constants words

theorem declared_in_enumeration_declaration {name : String} (word : IsWord name)
    (members : List (String × String)) :
    declaredIn (TypeScript.Declaration.enumeration name members).write = [name] := by
  cases members with
  | nil =>
      have text : (TypeScript.Declaration.enumeration name []).write =
          "export enum " ++ (name ++ (" \x7b\x7d" ++ "")) := by
        rw [TypeScript.Declaration.write_empty_enumeration, String.append_empty,
          String.append_assoc]
      rw [text]
      exact declared_in_plain_block (by decide) word (by decide) ""
  | cons member members =>
      rw [TypeScript.Declaration.write_enumeration]
      simp only [String.append_assoc]
      exact declared_in_plain_block (by decide) word (by decide) _

theorem declared_in_interface {name : String} (word : IsWord name)
    (members : List TypeScript.Member) :
    declaredIn (TypeScript.Declaration.interface name members).write = [name] := by
  rw [TypeScript.Declaration.write_interface]
  simp only [String.append_assoc]
  exact declared_in_plain_block (by decide) word (by decide) _

theorem declared_in_struct (struct : Go.Struct) (word : IsWord struct.name) :
    declaredIn struct.write = [struct.name] := by
  simp only [Go.Struct.write, String.append_assoc]
  exact declared_in_plain_block (by decide) word (by decide) _

theorem declared_in_record_type {name : String} (word : IsWord name) :
    declaredIn (Go.Record.typeBlock name) = [name] := by
  have text : Go.Record.typeBlock name =
      "type " ++ (name ++ (" struct \x7b\n\tcore.BaseRecordProxy\n\x7d" ++ "")) := by
    rw [String.append_empty, ← String.append_assoc]
    rfl
  rw [text]
  exact declared_in_plain_block (by decide) word (by decide) ""

theorem declared_in_collection_constant {name : String} (word : IsWord name)
    (collection : String) :
    declaredIn (Go.Record.collectionConstantBlock name collection) =
      [Target.collectionConstant name] := by
  have constant : IsWord (Target.collectionConstant name) :=
    is_word_append word (literal_is_word (by decide))
  simp only [Go.Record.collectionConstantBlock, String.append_assoc]
  exact declared_in_plain_block (by decide) constant (by decide) _

/-- The functions of a record type, with their names in the order of the text. -/
theorem declared_in_function_blocks {name : String} (word : IsWord name) :
    (Go.Record.functionBlocks name).flatMap declaredIn =
      [Target.wrapName name, Target.newName name, Target.findByIdName name,
        Target.findFirstName name, Target.findByFilterName name] := by
  have words := Claimant.declarations_are_words word .goRecord
  simp only [Target.collectionDeclarations, List.forall_mem_cons] at words
  obtain ⟨_, _, wrapWord, newWord, findByIdWord, findFirstWord, findByFilterWord, _⟩ := words
  have wrap : declaredIn (Go.Record.wrapFunction name) = [Target.wrapName name] := by
    unfold Go.Record.wrapFunction
    simp only [String.append_assoc, -String.reduceAppend]
    exact declared_in_plain_block (by decide) wrapWord (by decide) _
  have new : declaredIn (Go.Record.newFunction name) = [Target.newName name] := by
    unfold Go.Record.newFunction
    simp only [String.append_assoc, -String.reduceAppend]
    exact declared_in_plain_block (by decide) newWord (by decide) _
  have findById : declaredIn (Go.Record.findByIdFunction name) = [Target.findByIdName name] := by
    unfold Go.Record.findByIdFunction
    simp only [String.append_assoc, -String.reduceAppend]
    exact declared_in_plain_block (by decide) findByIdWord (by decide) _
  have findFirst : declaredIn (Go.Record.findFirstFunction name) =
      [Target.findFirstName name] := by
    unfold Go.Record.findFirstFunction
    simp only [String.append_assoc, -String.reduceAppend]
    exact declared_in_plain_block (by decide) findFirstWord (by decide) _
  have findByFilter : declaredIn (Go.Record.findByFilterFunction name) =
      [Target.findByFilterName name] := by
    unfold Go.Record.findByFilterFunction
    simp only [String.append_assoc, -String.reduceAppend]
    exact declared_in_plain_block (by decide) findByFilterWord (by decide) _
  simp [Go.Record.functionBlocks, wrap, new, findById, findFirst, findByFilter]

end CollectionTypes.Outline
