import CollectionTypes.Proofs.Go.Fields

/-!
The types of members, read off what is written: those of the fields of a struct, and those of the
getters and setters of a record type. A getter has a result and takes nothing, a setter takes one
value and has no result; what loads the records of a relation does both and is neither. Bodies are
not read.
-/

namespace CollectionTypes.Go

open Naming Text

def accessorType? (text : String) : Option String := do
  let receiver ← text.toList.dropPrefix? "func (p *".toList
  let parameters := ((receiver.dropWhile (· ≠ ')')).dropWhile (· ≠ '(')).tail
  let given := parameters.takeWhile (· ≠ ')')
  let result ← (parameters.dropWhile (· ≠ ')')).dropPrefix? ") ".toList
  let returned := result.takeWhile fun letter => letter ≠ ' ' && letter ≠ '\n'
  if given = [] then some (String.ofList returned)
  else if returned = ['\x7b'] then some (String.ofList (given.dropWhile (· ≠ ' ')).tail)
  else none

def memberTypes (text : String) : List String :=
  (accessorType? text).toList ++
    (readStruct text).toList.flatMap fun struct => struct.2.filterMap (·.map (·.type))

def Method.valueText? : Method → Option String
  | .getter _ _ result _ => some result.write
  | .integerGetter _ _ => some "int"
  | .setter _ _ _ type _ => some type.write
  | .expander _ _ _ => none

theorem type_letters_unparenthesized {letters : List Char}
    (spelled : ∀ letter ∈ letters, isTypeLetter letter = true) :
    ∀ letter ∈ letters, letter ≠ '(' ∧ letter ≠ ')' := by
  intro letter member
  constructor
  all_goals
    rintro rfl
    exact absurd (spelled _ member) (by decide)

/-- What is read between the parentheses of a method and behind them. -/
theorem accessor_type_of_head {receiver name : String} (receiverWord : IsWord receiver)
    (word : IsWord name) {given : List Char} (closed : ')' ∉ given) {tail : String}
    {result : List Char} (spelled : tail.toList = '(' :: (given ++ ')' :: ' ' :: result)) :
    accessorType? (Method.head receiver name ++ tail) =
      let returned := result.takeWhile fun letter => letter ≠ ' ' && letter ≠ '\n'
      if given = [] then some (String.ofList returned)
      else if returned = ['\x7b'] then some (String.ofList (given.dropWhile (· ≠ ' ')).tail)
      else none := by
  have apart {word : String} (isWord : IsWord word) {mark : Char}
      (noLetter : mark = '(' ∨ mark = ')') :
      ∀ letter ∈ word.toList, decide (letter ≠ mark) = true := by
    intro letter member
    have own := type_letters_unparenthesized (type_letters_of_word isWord) letter member
    rcases noLetter with rfl | rfl
    · exact decide_eq_true own.1
    · exact decide_eq_true own.2
  have opened : ∀ letter ∈ ')' :: ' ' :: name.toList, decide (letter ≠ '(') = true := by
    simp only [List.forall_mem_cons]
    exact ⟨by decide, by decide, apart word (Or.inl rfl)⟩
  have inside : ∀ letter ∈ given, decide (letter ≠ ')') = true := by
    intro letter member
    rw [decide_eq_true_eq]
    rintro rfl
    exact closed member
  have text : (Method.head receiver name ++ tail).toList = "func (p *".toList ++
      (receiver.toList ++ ')' :: (' ' :: (name.toList ++ tail.toList))) := by
    simp [Method.head]
  have received := (run_until (apart receiverWord (Or.inr rfl)) ')' (by decide)
    (' ' :: (name.toList ++ tail.toList))).2
  have named := (run_until opened '(' (by decide) (given ++ ')' :: ' ' :: result)).2
  obtain ⟨taken, left⟩ := run_until inside ')' (by decide) (' ' :: result)
  have parameters : (')' :: ' ' :: (name.toList ++ tail.toList)).dropWhile (· ≠ '(') =
      '(' :: (given ++ ')' :: ' ' :: result) := by
    rw [spelled]
    simpa only [List.cons_append] using named
  have closing : (')' :: ' ' :: result).dropPrefix? ") ".toList = some result := by
    simp [List.dropPrefix?]
  rw [accessorType?, text, List.dropPrefix?_append_of_beq _ (beq_self_eq_true _)]
  simp only [Option.bind_eq_bind, Option.bind_some, received, parameters, List.tail_cons, taken,
    left, closing]

section Methods

variable {receiver name : String} (receiverWord : IsWord receiver) (word : IsWord name)
  {type : TypeExpr}

include receiverWord word

theorem accessor_type_of_getter (known : type.Known) (field : String) (reading : Reading) :
    accessorType? (Method.head receiver name ++ Method.getterTail field type reading) =
      some type.write := by
  let body := '\x7b' :: '\n' :: (reading.body (Quoted.literal field) ++ "\x7d").toList
  have tail : (Method.getterTail field type reading).toList =
      '(' :: ([] ++ ')' :: ' ' :: (type.write.toList ++ ' ' :: body)) := by
    simp [Method.getterTail, body]
  have spelled : ∀ letter ∈ type.write.toList,
      (decide (letter ≠ ' ') && decide (letter ≠ '\n')) = true := fun letter member => by
    simp [spelling_of_type_letter (TypeExpr.letters known letter member)]
  have taken := (run_until spelled ' ' (by decide) body).1
  have read := accessor_type_of_head receiverWord word List.not_mem_nil tail
  simp only [taken, String.ofList_toList] at read
  exact read

theorem accessor_type_of_integer_getter (field : String) :
    accessorType? (Method.head receiver name ++ Method.integerTail field) = some "int" := by
  obtain ⟨body, tail⟩ : ∃ body, (Method.integerTail field).toList =
      '(' :: ([] ++ ')' :: ' ' :: ("int".toList ++ ' ' :: body)) := by
    unfold Method.integerTail
    simp only [String.toList_append, List.append_assoc]
    exact ⟨_, rfl⟩
  have taken : ("int".toList ++ ' ' :: body).takeWhile
      (fun letter => letter ≠ ' ' && letter ≠ '\n') = "int".toList := rfl
  have read := accessor_type_of_head receiverWord word List.not_mem_nil tail
  simp only [taken, String.ofList_toList] at read
  exact read

theorem accessor_type_of_setter (known : type.Known) (field : String) {parameter : String}
    (parameterWord : IsWord parameter) (writing : Writing) :
    accessorType? (Method.head receiver name ++ Method.setterTail field parameter type writing) =
      some type.write := by
  let given := parameter.toList ++ ' ' :: type.write.toList
  let body := '\n' :: (writing.body (Quoted.literal field) parameter ++ "\x7d").toList
  have inParameter := type_letters_of_word parameterWord
  have closed : ')' ∉ given := by
    simp only [given, List.mem_append, List.mem_cons, not_or]
    exact ⟨fun inside => (type_letters_unparenthesized inParameter _ inside).2 rfl, by decide,
      fun inside => (type_letters_unparenthesized (TypeExpr.letters known) _ inside).2 rfl⟩
  have tail : (Method.setterTail field parameter type writing).toList =
      '(' :: (given ++ ')' :: ' ' :: ('\x7b' :: body)) := by
    simp [Method.setterTail, body, given]
  have some : given ≠ [] := by simp [given]
  have blank : ∀ letter ∈ parameter.toList, decide (letter ≠ ' ') = true :=
    fun letter member => decide_eq_true (spelling_of_type_letter (inParameter letter member)).1
  have left := (run_until blank ' ' (by decide) type.write.toList).2
  have opened : ('\x7b' :: body).takeWhile (fun letter => letter ≠ ' ' && letter ≠ '\n') =
      ['\x7b'] := rfl
  have read := accessor_type_of_head receiverWord word closed tail
  simp only [if_neg some, opened, if_true, given, left, List.tail_cons, String.ofList_toList]
    at read
  exact read

/-- What takes something and hands out more than nothing is neither. -/
theorem accessor_type_of_expander (field : String) (expansion : Expansion) :
    accessorType? (Method.head receiver name ++ Method.expanderTail field expansion) = none := by
  obtain ⟨results, tail⟩ : ∃ results, (Method.expanderTail field expansion).toList =
      '(' :: ("app core.App".toList ++ ')' :: ' ' :: '(' :: results) := by
    unfold Method.expanderTail
    simp only [String.toList_append, List.append_assoc]
    exact ⟨_, rfl⟩
  have opened : ('(' :: results).takeWhile (fun letter => letter ≠ ' ' && letter ≠ '\n') ≠
      ['\x7b'] := by simp
  have read := accessor_type_of_head receiverWord word (by decide) tail
  rw [if_neg (by decide), if_neg opened] at read
  exact read

omit word

/-- The head of a method says what its types are. -/
theorem accessor_type_of_method {symbols : Symbols} (worded : symbols.Worded)
    {property : Property} {method : Method} (found : Record.MethodOf symbols property method) :
    accessorType? (method.write receiver) = method.valueText? := by
  have known : (valueType symbols property).Known := value_type_known worded
  cases found with
  | getter word => exact accessor_type_of_getter receiverWord word known property.name _
  | integerGetter word _ => exact accessor_type_of_integer_getter receiverWord word property.name
  | setter word _ =>
      exact accessor_type_of_setter receiverWord word known property.name
        (parameter_name_is_word _ _) _
  | expander word _ => exact accessor_type_of_expander receiverWord word property.name _

end Methods

/-! Member types, block by block. -/

section Blocks

theorem member_types_of_others {text : String}
    (noMethod : text.toList.dropPrefix? "func (p *".toList = none)
    (noStruct : readStruct text = none) : memberTypes text = [] := by
  rw [memberTypes, accessorType?, noMethod, noStruct]
  rfl

theorem member_types_of_struct {struct : Struct} (known : struct.Known)
    (unbroken : struct.Unbroken) :
    memberTypes struct.write = struct.fields.map (·.type.write) := by
  have noMethod : struct.write.toList.dropPrefix? "func (p *".toList = none := by
    unfold Struct.write
    simp only [String.toList_append, List.append_assoc]
    rfl
  rw [memberTypes, accessorType?, noMethod, read_struct_of_write known unbroken]
  simp [List.filterMap_map, StructField.line]

theorem member_types_of_enumeration {enumeration : Enumeration} (word : IsWord enumeration.name) :
    memberTypes enumeration.write = [] := by
  refine member_types_of_others ?_ (read_struct_of_enumeration word)
  rw [Enumeration.write]
  split
  · simp only [String.toList_append, List.append_assoc]
    rfl
  · simp only [String.toList_append, List.append_assoc]
    rfl

theorem member_types_of_collection_constant (name collection : String) :
    memberTypes (Record.collectionConstantBlock name collection) = [] := by
  obtain ⟨rest, text⟩ : ∃ rest,
      (Record.collectionConstantBlock name collection).toList = 'c' :: rest := by
    unfold Record.collectionConstantBlock
    simp only [String.toList_append, List.append_assoc]
    exact ⟨_, rfl⟩
  exact member_types_of_others (by rw [text]; rfl) (read_struct_none text (by decide))

/-- An embedded record has no tag and gives a record type no field of a type of its own. -/
theorem member_types_of_type_block {name : String} (word : IsWord name) :
    memberTypes (Record.typeBlock name) = [] := by
  let head := ("type " ++ name ++ " struct \x7b").toList
  have text : (Record.typeBlock name).toList =
      head ++ '\n' :: "\tcore.BaseRecordProxy\n\x7d".toList := by
    unfold Record.typeBlock
    simp only [head, String.toList_append, List.append_assoc]
    rfl
  have named : structName? head = some name :=
    (struct_name_of_head word "struct \x7b".toList).trans (if_pos rfl)
  have lines : codeLines false "\tcore.BaseRecordProxy\n\x7d".toList =
      ["\tcore.BaseRecordProxy".toList, ['\x7d']] := rfl
  have noMethod : (Record.typeBlock name).toList.dropPrefix? "func (p *".toList = none := by
    rw [text]
    simp only [head, String.toList_append, List.append_assoc]
    rfl
  have plain : ∀ letter ∈ head, letter ≠ '\n' ∧ letter ≠ '\x60' :=
    type_head_on_line word (by decide)
  rw [memberTypes, accessorType?, noMethod, readStruct, text, code_lines_outside plain,
    code_lines_end, lines]
  simp only [List.headD_cons, named]
  rfl

/-- A function has its name where a method has its receiver. -/
theorem function_opens (name : String) : ∀ block ∈ Record.functionBlocks name, ∃ first rest,
    block.toList = "func ".toList ++ first :: rest ∧ first ≠ '(' := by
  simp only [Record.functionBlocks, List.forall_mem_cons]
  refine ⟨?_, ?_, ?_, ?_, ?_, by simp⟩
  · unfold Record.wrapFunction Target.wrapName
    simp only [String.toList_append, List.append_assoc]
    exact ⟨_, _, rfl, by decide⟩
  · unfold Record.newFunction Target.newName
    simp only [String.toList_append, List.append_assoc]
    exact ⟨_, _, rfl, by decide⟩
  · unfold Record.findByIdFunction Target.findByIdName
    simp only [String.toList_append, List.append_assoc]
    exact ⟨_, _, rfl, by decide⟩
  · unfold Record.findFirstFunction Target.findFirstName
    simp only [String.toList_append, List.append_assoc]
    exact ⟨_, _, rfl, by decide⟩
  · unfold Record.findByFilterFunction Target.findByFilterName
    simp only [String.toList_append, List.append_assoc]
    exact ⟨_, _, rfl, by decide⟩

theorem member_types_of_functions (name : String) :
    ∀ block ∈ Record.functionBlocks name, memberTypes block = [] := by
  intro block member
  obtain ⟨first, rest, text, other⟩ := function_opens name block member
  refine member_types_of_others ?_ (read_struct_none text (by decide))
  rw [text]
  simp [List.dropPrefix?, other]

theorem member_types_of_method {symbols : Symbols} (worded : symbols.Worded) {property : Property}
    {method : Method} (found : Record.MethodOf symbols property method) {receiver : String}
    (receiverWord : IsWord receiver) :
    memberTypes (method.write receiver) = method.valueText?.toList := by
  have noStruct : readStruct (method.write receiver) = none := by
    obtain ⟨rest, text⟩ : ∃ rest, (method.write receiver).toList = 'f' :: rest := by
      unfold Method.write Method.head
      simp only [String.toList_append, List.append_assoc]
      exact ⟨_, rfl⟩
    exact read_struct_none text (by decide)
  rw [memberTypes, accessor_type_of_method receiverWord worded found, noStruct]
  exact List.append_nil _

end Blocks

end CollectionTypes.Go
