import CollectionTypes.Proofs.Generator.Imports
import CollectionTypes.Proofs.Generator.TopLevel
import CollectionTypes.Proofs.Go.Bodies

/-!
What a file of record types declares, read off its text: types with their kinds, functions of one
parameter and one result, methods by their receivers, and every other name. What other files of the
package declare is given; that they add no methods to the types of this file is taken for granted.
-/

namespace CollectionTypes.Go

open Naming Text

def readType? : List Char → Option TypeExpr
  | '*' :: rest => (readType? rest).map .pointer
  | '[' :: ']' :: rest => (readType? rest).map .slice
  | letters =>
      if letters = "map[string]any".toList then some .objectMap
      else if letters ≠ [] ∧ letters.all isDottedLetter = true then
        some (.named (String.ofList letters))
      else none

def recordBody : String := " struct \x7b\n\tcore.BaseRecordProxy\n\x7d"

def typeKind (body : List Char) : TypeKind :=
  if body.takeWhile (· ≠ '\n') = " string".toList then .text
  else if body = recordBody.toList then .record
  else .other

def declaredType? (block : String) : Option (String × TypeKind) :=
  (block.toList.dropPrefix? "type ".toList).map fun letters =>
    (String.ofList (letters.takeWhile isWordLetter), typeKind (letters.dropWhile isWordLetter))

def functionWith? (name : String) (letters : List Char) : Option Function := do
  let parameters ← letters.dropPrefix? ['(']
  let results ← (parameters.dropWhile (· ≠ ')')).dropPrefix? ") ".toList
  let parameter ← readType? (((parameters.takeWhile (· ≠ ')')).dropWhile (· ≠ ' ')).drop 1)
  let result ← readType? (results.takeWhile (· ≠ ' '))
  some ⟨name, parameter, result⟩

def declaredFunction? (block : String) : Option Function := do
  let letters ← block.toList.dropPrefix? "func ".toList
  let name := letters.takeWhile isWordLetter
  if name = [] then none
  else functionWith? (String.ofList name) (letters.dropWhile isWordLetter)

def declaredMethod? (block : String) : Option (String × String) := do
  let letters ← block.toList.dropPrefix? "func (p *".toList
  let named ← (letters.dropWhile isWordLetter).dropPrefix? ") ".toList
  some (String.ofList (letters.takeWhile isWordLetter),
    String.ofList (named.takeWhile isWordLetter))

def Declarations.ofBlocks (blocks : List String) : Declarations where
  types := blocks.filterMap declaredType?
  functions := blocks.filterMap declaredFunction?
  others := blocks.flatMap Outline.declaredIn

def Declarations.append (first second : Declarations) : Declarations where
  types := first.types ++ second.types
  functions := first.functions ++ second.functions
  others := first.others ++ second.others

/-- The file of the models, beside what the rest of the package declares. -/
def Package.ofModels (library : Library) (models : List Model) (elsewhere : Declarations) :
    Package :=
  let blocks := models.flatMap (Record.blocks (Symbols.ofModels models .goRecord))
  { library := library
    imports := (importPaths (importText (recordImports models))).map packageName
    declarations := (Declarations.ofBlocks blocks).append elsewhere
    methods := blocks.filterMap declaredMethod? }

section Types

theorem read_type_of_word {name : String} (word : IsWord name) :
    readType? name.toList = some (.named name) := by
  have dotted : name.toList.all isDottedLetter = true :=
    List.all_eq_true.mpr fun letter member => by simp [isDottedLetter, word.letters letter member]
  have some : name.toList ≠ [] := fun none => word.nonempty (String.toList_inj.mp none)
  have noMap : name.toList ≠ "map[string]any".toList := fun same =>
    absurd (word.letters '[' (same ▸ by decide)) (by decide)
  rw [readType?, if_neg noMap, if_pos ⟨some, dotted⟩, String.ofList_toList]
  · intro rest opens
    exact absurd (word.letters '*' (opens ▸ List.mem_cons_self ..)) (by decide)
  · intro rest opens
    exact absurd (word.letters '[' (opens ▸ List.mem_cons_self ..)) (by decide)

theorem declared_type_of_block {name : String} (word : IsWord name) {body : List Char}
    (opens : ∃ mark rest, body = mark :: rest ∧ isWordLetter mark = false) {block : String}
    (text : block.toList = "type ".toList ++ (name.toList ++ body)) :
    declaredType? block = some (name, typeKind body) := by
  obtain ⟨mark, rest, rfl, stop⟩ := opens
  obtain ⟨taken, left⟩ := Outline.take_word word stop rest
  rw [declaredType?, text, List.dropPrefix?_append_of_beq _ (beq_self_eq_true _), Option.map_some,
    taken, left, String.ofList_toList]

theorem declared_type_of_record {name : String} (word : IsWord name) :
    declaredType? (Record.typeBlock name) = some (name, .record) := by
  have text : (Record.typeBlock name).toList =
      "type ".toList ++ (name.toList ++ recordBody.toList) := by
    unfold Record.typeBlock recordBody
    simp only [String.toList_append, List.append_assoc]
  exact declared_type_of_block word ⟨' ', _, rfl, by decide⟩ text

theorem declared_type_of_enumeration {enumeration : Enumeration} (word : IsWord enumeration.name) :
    declaredType? enumeration.write = some (enumeration.name, .text) := by
  obtain ⟨rest, text, ends⟩ : ∃ rest, enumeration.write.toList =
      "type ".toList ++ (enumeration.name.toList ++ (" string".toList ++ rest)) ∧
        (rest = [] ∨ rest.head? = some '\n') := by
    rw [Enumeration.write]
    split
    · exact ⟨[], by simp, Or.inl rfl⟩
    · simp only [String.toList_append, List.append_assoc]
      exact ⟨_, rfl, Or.inr rfl⟩
  have first : (" string".toList ++ rest).takeWhile (· ≠ '\n') = " string".toList := by
    cases rest with
    | nil => decide
    | cons mark rest =>
        obtain rfl : mark = '\n' := by simpa using ends
        exact (run_until (by simp) '\n' (by decide) rest).1
  have kind : typeKind (" string".toList ++ rest) = .text := if_pos first
  have opens : ∃ mark body, " string".toList ++ rest = mark :: body ∧ isWordLetter mark = false :=
    ⟨' ', _, rfl, by decide⟩
  rw [declared_type_of_block word opens text, kind]

end Types

section Functions

theorem declared_function_of_head {name : String} (word : IsWord name) {given : List Char}
    (closed : ')' ∉ given) {results : List Char} {block : String}
    (text : block.toList =
      "func ".toList ++ (name.toList ++ '(' :: (given ++ ')' :: ' ' :: results))) :
    declaredFunction? block = (do
      let parameter ← readType? ((given.dropWhile (· ≠ ' ')).drop 1)
      let result ← readType? (results.takeWhile (· ≠ ' '))
      some ⟨name, parameter, result⟩) := by
  have inside : ∀ letter ∈ given, decide (letter ≠ ')') = true := by
    intro letter member
    rw [decide_eq_true_eq]
    rintro rfl
    exact closed member
  have some : name.toList ≠ [] := fun none => word.nonempty (String.toList_inj.mp none)
  have stop : isWordLetter '(' = false := by decide
  obtain ⟨taken, left⟩ := Outline.take_word word stop (given ++ ')' :: ' ' :: results)
  obtain ⟨between, behind⟩ := run_until inside ')' (by decide) (' ' :: results)
  have opening : ('(' :: (given ++ ')' :: ' ' :: results)).dropPrefix? ['('] =
      Option.some (given ++ ')' :: ' ' :: results) := by simp [List.dropPrefix?]
  have closing : (')' :: ' ' :: results).dropPrefix? ") ".toList = Option.some results := by
    simp [List.dropPrefix?]
  rw [declaredFunction?, text, List.dropPrefix?_append_of_beq _ (beq_self_eq_true _)]
  simp only [Option.bind_eq_bind, Option.bind_some, functionWith?, taken, left, opening, between,
    behind, closing, if_neg some, String.ofList_toList]

def wrapper (typeName : String) : Function :=
  ⟨Target.wrapName typeName, Expansion.recordType, .pointer (.named typeName)⟩

theorem declared_wrap_function {name : String} (word : IsWord name) :
    declaredFunction? (Record.wrapFunction name) = some (wrapper name) := by
  have wrapWord : IsWord (Target.wrapName name) :=
    is_word_append (literal_is_word (by decide)) word
  obtain ⟨body, text⟩ : ∃ body, (Record.wrapFunction name).toList = "func ".toList ++
      ((Target.wrapName name).toList ++ '(' :: ("record *core.Record".toList ++ ')' :: ' ' ::
        ('*' :: (name.toList ++ ' ' :: body)))) := by
    unfold Record.wrapFunction
    simp only [String.toList_append, List.append_assoc]
    exact ⟨_, rfl⟩
  have shown : ∀ letter ∈ '*' :: name.toList, decide (letter ≠ ' ') = true := by
    refine List.forall_mem_cons.mpr ⟨by decide, fun letter member => ?_⟩
    rw [decide_eq_true_eq]
    rintro rfl
    exact absurd (word.letters ' ' member) (by decide)
  have result : ('*' :: (name.toList ++ ' ' :: body)).takeWhile (· ≠ ' ') = '*' :: name.toList :=
    (run_until shown ' ' (by decide) body).1
  have parameter : readType? (("record *core.Record".toList.dropWhile (· ≠ ' ')).drop 1) =
      some Expansion.recordType := by decide
  rw [declared_function_of_head wrapWord (by decide) text, parameter, result, readType?,
    read_type_of_word word]
  rfl

/-- A head whose parameter or result is no single type. -/
theorem declared_function_of_other_head {name : String} (word : IsWord name) {given : List Char}
    (closed : ')' ∉ given) {block : String}
    (head : ∃ results, block.toList =
      "func ".toList ++ (name.toList ++ '(' :: (given ++ ')' :: ' ' :: '(' :: results))) :
    declaredFunction? block = none := by
  obtain ⟨results, text⟩ := head
  have result : readType? (('(' :: results).takeWhile (· ≠ ' ')) = none := by
    rw [List.takeWhile_cons_of_pos (by decide), readType?]
    · simp [isDottedLetter, isWordLetter]
    · simp
    · simp
  rw [declared_function_of_head word closed text, result]
  cases readType? ((given.dropWhile (· ≠ ' ')).drop 1) <;> rfl

theorem declared_by_functions {name : String} (word : IsWord name) :
    ∀ block ∈ Record.functionBlocks name, ∀ function ∈ declaredFunction? block,
      function = wrapper name := by
  have words := Claimant.declarations_are_words word .goRecord
  simp only [Target.collectionDeclarations, List.forall_mem_cons] at words
  obtain ⟨_, _, _, newWord, findByIdWord, findFirstWord, findByFilterWord, _⟩ := words
  have new : declaredFunction? (Record.newFunction name) = none := by
    refine declared_function_of_other_head newWord
      (show ')' ∉ "app core.App".toList by decide) ?_
    unfold Record.newFunction
    simp only [String.toList_append, List.append_assoc]
    exact ⟨_, rfl⟩
  have findById : declaredFunction? (Record.findByIdFunction name) = none := by
    refine declared_function_of_other_head findByIdWord
      (show ')' ∉ "app core.App, id string".toList by decide) ?_
    unfold Record.findByIdFunction
    simp only [String.toList_append, List.append_assoc]
    exact ⟨_, rfl⟩
  have findFirst : declaredFunction? (Record.findFirstFunction name) = none := by
    refine declared_function_of_other_head findFirstWord
      (show ')' ∉ "app core.App, key string, value any".toList by decide) ?_
    unfold Record.findFirstFunction
    simp only [String.toList_append, List.append_assoc]
    exact ⟨_, rfl⟩
  have findByFilter : declaredFunction? (Record.findByFilterFunction name) = none := by
    let given := "app core.App, filter string, sort string, ".toList ++
      "limit int, offset int, params ...dbx.Params".toList
    refine declared_function_of_other_head findByFilterWord (show ')' ∉ given by decide) ?_
    unfold Record.findByFilterFunction
    simp only [String.toList_append, List.append_assoc]
    exact ⟨_, rfl⟩
  simp [Record.functionBlocks, declared_wrap_function word, new, findById, findFirst, findByFilter]

end Functions

section Blocks

variable {symbols : Symbols} {model : Model}

theorem Record.block_cases {block : String} (member : block ∈ Record.blocks symbols model) :
    (∃ property ∈ model.distinctEnums, block = (Enumeration.ofProperty symbols property).write) ∨
      block = Record.collectionConstantBlock (symbols.typeName model.name) model.name ∨
      block = Record.typeBlock (symbols.typeName model.name) ∨
      (∃ method ∈ Record.methods symbols model,
        block = method.write (symbols.typeName model.name)) ∨
      block ∈ Record.functionBlocks (symbols.typeName model.name) := by
  simpa [Record.blocks, eq_comm, or_assoc] using member

theorem declares_no_type {block : String} {first : Char} {rest : List Char}
    (text : block.toList = first :: rest) (other : first ≠ 't') : declaredType? block = none := by
  simp [declaredType?, text, List.dropPrefix?, other]

theorem declares_no_function {block : String} {first : Char} {rest : List Char}
    (text : block.toList = first :: rest) (other : first ≠ 'f') :
    declaredFunction? block = none ∧ declaredMethod? block = none := by
  simp [declaredFunction?, declaredMethod?, text, List.dropPrefix?, other]

theorem enumeration_declares_no_function (enumeration : Enumeration) :
    declaredFunction? enumeration.write = none ∧ declaredMethod? enumeration.write = none := by
  obtain ⟨rest, text⟩ : ∃ rest, enumeration.write.toList = 't' :: rest := by
    rw [Enumeration.write]
    split <;>
    · simp only [String.toList_append, List.append_assoc]
      exact ⟨_, rfl⟩
  exact declares_no_function text (by decide)

theorem collection_constant_opens (name collection : String) :
    ∃ rest, (Record.collectionConstantBlock name collection).toList = 'c' :: rest := by
  unfold Record.collectionConstantBlock
  simp only [String.toList_append, List.append_assoc]
  exact ⟨_, rfl⟩

theorem collection_constant_declares_no_function (name collection : String) :
    declaredFunction? (Record.collectionConstantBlock name collection) = none ∧
      declaredMethod? (Record.collectionConstantBlock name collection) = none := by
  obtain ⟨rest, text⟩ := collection_constant_opens name collection
  exact declares_no_function text (by decide)

theorem record_type_declares_no_function (name : String) :
    declaredFunction? (Record.typeBlock name) = none ∧
      declaredMethod? (Record.typeBlock name) = none := by
  obtain ⟨rest, text⟩ : ∃ rest, (Record.typeBlock name).toList = 't' :: rest := by
    unfold Record.typeBlock
    simp only [String.toList_append, List.append_assoc]
    exact ⟨_, rfl⟩
  exact declares_no_function text (by decide)

theorem method_text (receiver : String) (method : Method) :
    (method.write receiver).toList = "func (p *".toList ++
      (receiver.toList ++ ')' :: (' ' :: (method.name.toList ++ method.tail.toList))) := by
  simp [Method.write, Method.head]

/-- A method has no name where a function has its own. -/
theorem declared_function_of_method (receiver : String) (method : Method) :
    declaredFunction? (method.write receiver) = none := by
  have text : (method.write receiver).toList = "func ".toList ++ '(' :: ("p *".toList ++
      (receiver.toList ++ ')' :: (' ' :: (method.name.toList ++ method.tail.toList)))) := by
    rw [method_text]
    rfl
  rw [declaredFunction?, text, List.dropPrefix?_append_of_beq _ (beq_self_eq_true _)]
  rfl

theorem declared_method {receiver : String} (receiverWord : IsWord receiver) {method : Method}
    (word : IsWord method.name) : declaredMethod? (method.write receiver) =
      some (receiver, method.name) := by
  have opens := method.tail_opens_with_mark
  obtain ⟨mark, rest, tail⟩ := List.exists_cons_of_ne_nil
    (fun none : method.tail.toList = [] => by simp [none, opensWithMark] at opens)
  have stop : isWordLetter mark = false := by
    simp only [tail, opensWithMark, isDottedLetter, Bool.not_eq_true', Bool.or_eq_false_iff]
      at opens
    exact opens.1
  have closes : isWordLetter ')' = false := by decide
  obtain ⟨received, behind⟩ := Outline.take_word receiverWord closes
    (' ' :: (method.name.toList ++ method.tail.toList))
  have named := (Outline.take_word word stop rest).1
  rw [← tail] at named
  have closing : (')' :: ' ' :: (method.name.toList ++ method.tail.toList)).dropPrefix?
      ") ".toList = some (method.name.toList ++ method.tail.toList) := by
    simp [List.dropPrefix?]
  rw [declaredMethod?, method_text, List.dropPrefix?_append_of_beq _ (beq_self_eq_true _)]
  simp only [Option.bind_eq_bind, Option.bind_some, received, behind, closing, named,
    String.ofList_toList]

theorem functions_declare_no_method (name : String) :
    ∀ block ∈ Record.functionBlocks name, declaredMethod? block = none := by
  intro block member
  obtain ⟨first, rest, text, other⟩ := function_opens name block member
  rw [declaredMethod?, text]
  simp [List.dropPrefix?, other]

variable (worded : symbols.Worded)

include worded

/-- The types of a model: its own and those of its enumerations. -/
theorem type_of_block {block : String} (member : block ∈ Record.blocks symbols model)
    {type : String × TypeKind} (declared : declaredType? block = some type) :
    type = (symbols.typeName model.name, .record) ∨
      ∃ property ∈ model.distinctEnums, type = (symbols.enumName property, .text) := by
  rcases Record.block_cases member with ⟨property, inModel, rfl⟩ | rfl | rfl | ⟨method, _, rfl⟩ |
    isFunction
  · rw [declared_type_of_enumeration (worded.enums property)] at declared
    exact Or.inr ⟨property, inModel, (Option.some.inj declared).symm⟩
  · obtain ⟨rest, text⟩ := collection_constant_opens (symbols.typeName model.name) model.name
    rw [declares_no_type text (by decide)] at declared
    contradiction
  · rw [declared_type_of_record (worded.types model.name)] at declared
    exact Or.inl (Option.some.inj declared).symm
  · rw [declares_no_type (method_text _ method) (by decide)] at declared
    contradiction
  · obtain ⟨first, rest, text, _⟩ := function_opens _ block isFunction
    rw [declares_no_type text (by decide)] at declared
    contradiction

/-- The one function of one parameter and one result is that which wraps a record. -/
theorem function_of_block {block : String} (member : block ∈ Record.blocks symbols model)
    {function : Function} (declared : declaredFunction? block = some function) :
    function = wrapper (symbols.typeName model.name) := by
  rcases Record.block_cases member with ⟨_, _, rfl⟩ | rfl | rfl | ⟨method, _, rfl⟩ | isFunction
  · rw [(enumeration_declares_no_function _).1] at declared
    contradiction
  · rw [(collection_constant_declares_no_function _ _).1] at declared
    contradiction
  · rw [(record_type_declares_no_function _).1] at declared
    contradiction
  · rw [declared_function_of_method] at declared
    contradiction
  · exact declared_by_functions (worded.types model.name) block isFunction function declared

theorem method_of_block {block : String} (member : block ∈ Record.blocks symbols model)
    {method : String × String} (declared : declaredMethod? block = some method) :
    method.2 ∈ (Record.methods symbols model).map (·.name) := by
  rcases Record.block_cases member with ⟨_, _, rfl⟩ | rfl | rfl | ⟨found, isMethod, rfl⟩ |
    isFunction
  · rw [(enumeration_declares_no_function _).2] at declared
    contradiction
  · rw [(collection_constant_declares_no_function _ _).2] at declared
    contradiction
  · rw [(record_type_declares_no_function _).2] at declared
    contradiction
  · obtain ⟨property, _, methodOf⟩ := Record.method_of_all_methods isMethod
    rw [declared_method (worded.types model.name) methodOf.word] at declared
    rw [← Option.some.inj declared]
    exact List.mem_map_of_mem isMethod
  · rw [functions_declare_no_method _ block isFunction] at declared
    contradiction

/-- Whatever a block of a model declares is in the group of one of its claimants. -/
theorem declared_name_of_block {block : String} (member : block ∈ Record.blocks symbols model)
    {name : String} (declared : name ∈ Outline.declaredIn block) :
    ∃ entry ∈ (Generator.forTarget .goRecord).outline symbols model,
      name ∈ entry.1.group .goRecord symbols := by
  have outlined : block ∈ ((Generator.forTarget .goRecord).outline symbols model).map Prod.snd := by
    rw [Generator.outline_blocks]
    exact member
  obtain ⟨entry, inOutline, rfl⟩ := List.mem_map.mp outlined
  exact ⟨entry, inOutline, Generator.declared_names_in_group worded _ model entry inOutline name
    declared⟩

end Blocks

end CollectionTypes.Go
