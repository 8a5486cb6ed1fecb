import CollectionTypes.Proofs.Go.Methods
import CollectionTypes.Proofs.Go.Types

/-!
The packages that texts in Go name, read off their qualified words. Bodies select on variables only,
so that the packages of a method are those of the types in its head, and the functions of a record
type name what their constant text does. The tag of a struct field is a literal that names nothing,
as long as its key does not end it.
-/

namespace CollectionTypes.Go

open Naming Text

/-- The package of a qualified word: what stands before its dot, if that is no variable. The dots of
a parameter list qualify nothing. -/
def package? (word : String) : Option String :=
  match pieces (· = '.') (word.toList.dropWhile (· = '.')) with
  | first :: (_ :: _) :: _ =>
      if Record.locals.contains (String.ofList first) then none else some (String.ofList first)
  | _ => none

def packages (text : String) : List String := (words text).filterMap package?

theorem package_of_word {word : String} (isWord : IsWord word) : package? word = none := by
  have noDot : ∀ letter ∈ word.toList, decide (letter = '.') = false := by
    intro letter member
    simp only [decide_eq_false_iff_not]
    rintro rfl
    exact absurd (isWord.letters '.' member) (by decide)
  have same : word.toList.dropWhile (· = '.') = word.toList := by
    cases letters : word.toList with
    | nil => rfl
    | cons first rest =>
        rw [List.dropWhile_cons_of_neg (by simpa [letters] using noDot first)]
  rw [package?, same, pieces_of_no_separator noDot]

def Uses (used : List String) (text : String) : Prop := packages text = used

def namesOne (package : String) (letters : List Char) : Bool :=
  (Scan.outside []).after letters == .outside [] &&
    ((Scan.outside []).words letters).filterMap package? == [package]

def isPlain (letters : List Char) : Bool :=
  (Scan.outside []).after letters == .outside [] &&
    ((Scan.outside []).words letters).all fun word => package? word == none

section Uses

variable {used : List String} {letters : List Char} {rest : String}

theorem uses_empty : Uses [] "" := by
  have none : words "" = [] := by decide
  rw [Uses, packages, none]
  rfl

/-- A fixed text before another one, with its own packages. -/
theorem uses_fixed {own : List String}
    (closed : (Scan.outside []).after letters = .outside [])
    (named : ((Scan.outside []).words letters).filterMap package? = own) (tail : Uses used rest) :
    Uses (own ++ used) (String.ofList letters ++ rest) := by
  rw [Uses, packages, words, String.toList_append, String.toList_ofList,
    Scan.words_of_closed closed, List.filterMap_append, named]
  exact congrArg (own ++ ·) tail

theorem uses_package {package : String} (names : namesOne package letters = true)
    (tail : Uses used rest) : Uses (package :: used) (String.ofList letters ++ rest) := by
  obtain ⟨closed, named⟩ := Bool.and_eq_true_iff.mp names
  exact uses_fixed (eq_of_beq closed) (eq_of_beq named) tail

theorem uses_plain (plain : isPlain letters = true) (tail : Uses used rest) :
    Uses used (String.ofList letters ++ rest) := by
  obtain ⟨closed, unqualified⟩ := Bool.and_eq_true_iff.mp plain
  have named : ((Scan.outside []).words letters).filterMap package? = [] := by
    rw [List.filterMap_eq_nil_iff]
    exact fun word member => eq_of_beq (List.all_eq_true.mp unqualified word member)
  have whole := uses_fixed (eq_of_beq closed) named tail
  rwa [List.nil_append] at whole

theorem uses_last (plain : isPlain letters = true) : Uses [] (String.ofList letters) := by
  have whole : Uses [] (String.ofList letters ++ "") := uses_plain plain uses_empty
  rwa [String.append_empty] at whole

theorem uses_package_last {package : String} (names : namesOne package letters = true) :
    Uses [package] (String.ofList letters) := by
  have whole : Uses [package] (String.ofList letters ++ "") := uses_package names uses_empty
  rwa [String.append_empty] at whole

theorem uses_literal (value : String) (tail : Uses used rest) :
    Uses used (Quoted.literal value ++ rest) := by
  rw [Uses, packages, words, String.toList_append, Quoted.literal, String.toList_ofList,
    Scan.words_of_literal]
  exact tail

theorem uses_tag {name : String} (unbroken : '\x60' ∉ name.toList) (omitEmpty : Bool)
    (tail : Uses used rest) : Uses used (jsonTag name omitEmpty ++ rest) := by
  let body := "json:\"".toList ++ (name.toList ++
    ((if omitEmpty then ",omitempty" else "").toList ++ ['"']))
  have text : (jsonTag name omitEmpty ++ rest).toList =
      '\x60' :: (body ++ '\x60' :: rest.toList) := by
    simp [jsonTag, body]
  have whole : '\x60' ∉ body := by
    cases omitEmpty <;> simp [body, unbroken]
  rw [Uses, packages, words, text, Scan.words_of_raw whole]
  exact tail

/-- A qualified name before a text with which it ends. -/
theorem uses_dotted {name : String} (dotted : ∀ letter ∈ name.toList, isDottedLetter letter = true)
    (stop : rest = "" ∨ opensWithMark rest.toList = true) (tail : Uses used rest) :
    Uses ((package? name).toList ++ used) (name ++ rest) := by
  have own : (Scan.outside name.toList).ended.filterMap package? = (package? name).toList := by
    cases spelled : name.toList with
    | nil =>
        have empty : name = "" := String.toList_inj.mp spelled
        rw [empty]
        rfl
    | cons first letters =>
        rw [Scan.ended, ← spelled, String.ofList_toList]
        cases found : package? name <;> simp [found]
  rw [Uses, packages, words, String.toList_append, Scan.words_of_name [] dotted, List.nil_append]
  rcases stop with rfl | mark
  · rw [show used = [] from tail.symm, List.append_nil]
    exact own
  · cases follows : rest.toList with
    | nil => simp [follows, opensWithMark] at mark
    | cons first later =>
        have ends : isDottedLetter first = false := by simpa [follows, opensWithMark] using mark
        rw [Scan.words_of_mark _ ends, List.filterMap_append, own, ← follows]
        exact congrArg ((package? name).toList ++ ·) tail

theorem uses_unqualified {name : String}
    (dotted : ∀ letter ∈ name.toList, isDottedLetter letter = true)
    (unqualified : package? name = none)
    (plain : (isPlain letters && opensWithMark letters) = true) (tail : Uses used rest) :
    Uses used (name ++ (String.ofList letters ++ rest)) := by
  obtain ⟨known, mark⟩ := Bool.and_eq_true_iff.mp plain
  have whole := uses_dotted dotted (Or.inr (opens_stock mark)) (uses_plain known tail)
  rwa [unqualified] at whole

theorem dotted_of_word {name : String} (word : IsWord name) :
    ∀ letter ∈ name.toList, isDottedLetter letter = true := by
  intro letter member
  simp [isDottedLetter, word.letters letter member]

theorem uses_word_before {name : String} (word : IsWord name)
    (mark : opensWithMark rest.toList = true) (tail : Uses used rest) :
    Uses used (name ++ rest) := by
  have whole := uses_dotted (dotted_of_word word) (Or.inr mark) tail
  rwa [package_of_word word] at whole

theorem uses_word {name : String} (word : IsWord name)
    (plain : (isPlain letters && opensWithMark letters) = true) (tail : Uses used rest) :
    Uses used (name ++ (String.ofList letters ++ rest)) :=
  uses_unqualified (dotted_of_word word) (package_of_word word) plain tail

/-- What bodies select is selected on variables. -/
theorem uses_selection {selection : String} (known : selection ∈ selections)
    (plain : (isPlain letters && opensWithMark letters) = true) (tail : Uses used rest) :
    Uses used (selection ++ (String.ofList letters ++ rest)) := by
  have unqualified : ∀ selection ∈ selections, package? selection = none := by decide
  have dotted := vocabulary_dotted selection (List.mem_append_left _ known)
  exact uses_unqualified (List.all_eq_true.mp dotted) (unqualified selection known) plain tail

end Uses

def TypeExpr.packages (type : TypeExpr) : List String := type.leaf?.toList.filterMap package?

def TypeExpr.Known (type : TypeExpr) : Prop := ∀ name ∈ type.leaf?, name ∈ vocabulary ∨ IsWord name

section Types

variable {type : TypeExpr} (known : type.Known) {used : List String} {letters : List Char}
  {rest : String}

include known

theorem uses_type (stop : rest = "" ∨ opensWithMark rest.toList = true) (tail : Uses used rest) :
    Uses (type.packages ++ used) (type.write ++ rest) := by
  induction type with
  | named name =>
      have own : (TypeExpr.named name).packages = (package? name).toList := by
        simp only [TypeExpr.packages, TypeExpr.leaf?, Option.toList_some]
        cases found : package? name <;> simp [found]
      rw [own]
      have fits : Fits [name] name := (known name rfl).imp_right fun word =>
        ⟨word, List.mem_singleton_self name⟩
      exact uses_dotted (dotted_of_fits fits) stop tail
  | objectMap =>
      have split : TypeExpr.objectMap.write = "map[string]" ++ "any" := by decide
      rw [split, String.append_assoc]
      have dotted : "any".toList.all isDottedLetter = true := by decide
      exact uses_plain (by decide) (uses_dotted (List.all_eq_true.mp dotted) stop tail)
  | pointer target induction =>
      rw [TypeExpr.write, String.append_assoc]
      exact uses_plain (by decide) (induction known)
  | slice element induction =>
      rw [TypeExpr.write, String.append_assoc]
      exact uses_plain (by decide) (induction known)

/-- A type before a text of no packages. -/
theorem uses_typed (plain : (isPlain letters && opensWithMark letters) = true)
    (tail : Uses [] rest) : Uses type.packages (type.write ++ (String.ofList letters ++ rest)) := by
  obtain ⟨unqualified, mark⟩ := Bool.and_eq_true_iff.mp plain
  have whole := uses_type known (Or.inr (opens_stock mark)) (uses_plain unqualified tail)
  rwa [List.append_nil] at whole

theorem uses_written_type : Uses type.packages type.write := by
  have whole := uses_type known (Or.inl rfl) uses_empty
  rwa [List.append_nil, String.append_empty] at whole

end Types

section Bodies

variable {used : List String} {rest : String} (tail : Uses used rest)

include tail

theorem Reading.uses_selected_body {selection : String} (known : selection ∈ selections)
    (field : String) : Uses used (selectedBody selection (Quoted.literal field) ++ rest) := by
  unfold selectedBody
  simp only [String.append_assoc, -String.reduceAppend]
  apply uses_plain (by decide)
  apply uses_selection known (by decide)
  apply uses_literal field
  exact uses_plain (by decide) tail

theorem Reading.uses_body {reading : Reading} (words : ∀ name ∈ reading.typeName?, IsWord name)
    (field : String) : Uses used (reading.body (Quoted.literal field) ++ rest) := by
  cases reading with
  | decoded =>
      rw [body]
      unfold decodedBody
      simp only [String.append_assoc, -String.reduceAppend]
      apply uses_plain (by decide)
      apply uses_plain (by decide)
      apply uses_literal field
      apply uses_plain (by decide)
      apply uses_plain (by decide)
      apply uses_plain (by decide)
      exact uses_plain (by decide) tail
  | enumSlice typeName =>
      have word := words typeName rfl
      rw [body]
      unfold enumSliceBody
      simp only [String.append_assoc, -String.reduceAppend]
      apply uses_plain (by decide)
      apply uses_literal field
      apply uses_plain (by decide)
      apply uses_plain (by decide)
      apply uses_word word (by decide)
      apply uses_plain (by decide)
      apply uses_plain (by decide)
      apply uses_word word (by decide)
      apply uses_plain (by decide)
      exact uses_plain (by decide) tail
  | enum typeName =>
      rw [body]
      unfold enumBody
      simp only [String.append_assoc, -String.reduceAppend]
      apply uses_plain (by decide)
      apply uses_word (words typeName rfl) (by decide)
      apply uses_literal field
      exact uses_plain (by decide) tail
  | float | boolean | dateTime | stringSlice | string =>
      exact uses_selected_body tail (by decide) field

theorem Writing.uses_body (writing : Writing) (field : String) {parameter : String}
    (word : IsWord parameter) :
    Uses used (writing.body (Quoted.literal field) parameter ++ rest) := by
  cases writing with
  | enumSlice =>
      rw [body]
      unfold enumSliceBody
      simp only [String.append_assoc, -String.reduceAppend]
      apply uses_plain (by decide)
      apply uses_word word (by decide)
      apply uses_plain (by decide)
      apply uses_word word (by decide)
      apply uses_plain (by decide)
      apply uses_plain (by decide)
      apply uses_plain (by decide)
      apply uses_literal field
      exact uses_plain (by decide) tail
  | enum =>
      rw [body]
      unfold enumBody
      simp only [String.append_assoc, -String.reduceAppend]
      apply uses_plain (by decide)
      apply uses_literal field
      apply uses_plain (by decide)
      exact uses_word word (by decide) tail
  | plain =>
      rw [body]
      unfold plainBody
      simp only [String.append_assoc, -String.reduceAppend]
      apply uses_plain (by decide)
      apply uses_literal field
      apply uses_plain (by decide)
      exact uses_word word (by decide) tail

theorem Expansion.uses_load (field : String) : Uses used (load (Quoted.literal field) ++ rest) := by
  unfold load
  simp only [String.append_assoc, -String.reduceAppend]
  apply uses_plain (by decide)
  apply uses_literal field
  apply uses_plain (by decide)
  apply uses_plain (by decide)
  apply uses_literal field
  apply uses_plain (by decide)
  apply uses_plain (by decide)
  exact uses_plain (by decide) tail

theorem Expansion.uses_body {expansion : Expansion}
    (words : ∀ name ∈ expansion.typeName?, IsWord name) (field : String) :
    Uses used (expansion.body (Quoted.literal field) ++ rest) := by
  have wrapped {typeName : String} (word : IsWord typeName) :
      IsWord (Target.wrapName typeName) := is_word_append (literal_is_word (by decide)) word
  rw [body, String.append_assoc]
  refine uses_load ?_ field
  cases expansion with
  | many typeName =>
      have word := words typeName rfl
      rw [pick]
      unfold pickMany
      simp only [String.append_assoc, -String.reduceAppend]
      apply uses_plain (by decide)
      apply uses_literal field
      apply uses_plain (by decide)
      apply uses_plain (by decide)
      apply uses_word word (by decide)
      apply uses_plain (by decide)
      apply uses_plain (by decide)
      apply uses_word (wrapped word) (by decide)
      apply uses_plain (by decide)
      exact uses_plain (by decide) tail
  | one typeName =>
      rw [pick]
      unfold pickOne
      simp only [String.append_assoc, -String.reduceAppend]
      apply uses_plain (by decide)
      apply uses_literal field
      apply uses_plain (by decide)
      apply uses_plain (by decide)
      apply uses_plain (by decide)
      apply uses_plain (by decide)
      apply uses_plain (by decide)
      exact uses_word (wrapped (words typeName rfl)) (by decide) tail
  | manyUntyped | oneUntyped =>
      rw [pick]
      unfold pickUntyped
      simp only [String.append_assoc, -String.reduceAppend]
      apply uses_plain (by decide)
      apply uses_selection (by decide) (by decide)
      apply uses_literal field
      exact uses_plain (by decide) tail

end Bodies

namespace Method

/-- The packages in the head of a method: those of its types, and that of the application with which
records are loaded. -/
def packages : Method → List String
  | .getter _ _ result _ => result.packages
  | .integerGetter _ _ => []
  | .setter _ _ _ type _ => type.packages
  | .expander _ _ expansion => "core" :: expansion.type.packages

end Method

section Worded

variable {symbols : Symbols} (worded : symbols.Worded) {property : Property}

include worded

/-- What the symbols give for a property is a word. -/
theorem known_of_referenced {target : Target} {type : TypeExpr}
    (names : ∀ name ∈ type.leaf?, name ∈ vocabulary ∨ name ∈ symbols.referenced target property) :
    type.Known := fun name member =>
  (names name member).imp_right (Symbols.referenced_are_words worded target property name)

theorem value_type_known : (valueType symbols property).Known :=
  known_of_referenced worded (Record.value_type_names symbols property)

theorem expansion_type_known (relation : property.isRelation = true) :
    (Expansion.ofProperty symbols property).type.Known :=
  known_of_referenced worded fun name member => Record.expansion_names symbols relation name
    (List.mem_append_left _ (Option.mem_toList.mpr member))

theorem uses_method {method : Method} (found : Record.MethodOf symbols property method)
    {receiver : String} (receiverWord : IsWord receiver) :
    Uses method.packages (method.write receiver) := by
  have headed {name tail : String} (word : IsWord name) {used : List String}
      (mark : opensWithMark tail.toList = true) (uses : Uses used tail) :
      Uses used (Method.head receiver name ++ tail) := by
    unfold Method.head
    simp only [String.append_assoc, -String.reduceAppend]
    apply uses_plain (by decide)
    apply uses_word receiverWord (by decide)
    exact uses_word_before word mark uses
  have mark := method.tail_opens_with_mark
  cases found with
  | getter word =>
      have words : ∀ name ∈ (Reading.ofProperty symbols property).typeName?, IsWord name :=
        fun name member => Symbols.referenced_are_words worded _ _ name
          (Record.reading_names symbols property name member)
      refine headed word mark ?_
      rw [Method.tail]
      unfold Method.getterTail
      simp only [String.append_assoc, -String.reduceAppend]
      apply uses_plain (by decide)
      apply uses_typed (value_type_known worded) (by decide)
      exact Reading.uses_body (uses_last (by decide)) words property.name
  | integerGetter word number =>
      refine headed word mark ?_
      rw [Method.tail]
      unfold Method.integerTail
      simp only [String.append_assoc, -String.reduceAppend]
      apply uses_plain (by decide)
      exact uses_literal property.name (uses_last (by decide))
  | setter word writable =>
      have parameter : IsWord (parameterName property.name Record.locals) :=
        parameter_name_is_word _ _
      refine headed word mark ?_
      rw [Method.tail]
      unfold Method.setterTail
      simp only [String.append_assoc, -String.reduceAppend]
      apply uses_plain (by decide)
      apply uses_word parameter (by decide)
      apply uses_typed (value_type_known worded) (by decide)
      exact Writing.uses_body (uses_last (by decide)) _ property.name parameter
  | expander word relation =>
      have words : ∀ name ∈ (Expansion.ofProperty symbols property).typeName?, IsWord name := by
        intro name member
        unfold Expansion.ofProperty at member
        split at member <;> cases member <;> exact worded.types _
      refine headed word mark ?_
      rw [Method.tail]
      unfold Method.expanderTail
      simp only [String.append_assoc, -String.reduceAppend]
      apply uses_package (by decide)
      apply uses_typed (expansion_type_known worded relation) (by decide)
      exact Expansion.uses_body (uses_last (by decide)) words property.name

end Worded

section Blocks

variable {name : String} (word : IsWord name)

include word

theorem uses_type_block : Uses ["core"] (Record.typeBlock name) := by
  unfold Record.typeBlock
  simp only [String.append_assoc, -String.reduceAppend]
  apply uses_plain (by decide)
  exact uses_word_before word (by decide) (uses_package_last (by decide))

theorem uses_collection_constant (collection : String) :
    Uses [] (Record.collectionConstantBlock name collection) := by
  have constant : IsWord (Target.collectionConstant name) :=
    is_word_append word (literal_is_word (by decide))
  have value := uses_literal collection uses_empty
  rw [String.append_empty] at value
  unfold Record.collectionConstantBlock
  simp only [String.append_assoc, -String.reduceAppend]
  apply uses_plain (by decide)
  exact uses_word constant (by decide) value

def functionPackages : List (List String) :=
  [["core"], ["core", "core"], ["core"], ["core"], ["core", "dbx"]]

theorem uses_function_blocks :
    List.Forall₂ Uses functionPackages (Record.functionBlocks name) := by
  have words := Claimant.declarations_are_words word .goRecord
  simp only [Target.collectionDeclarations, List.forall_mem_cons] at words
  obtain ⟨_, constant, wrap, new, findById, findFirst, findByFilter, _⟩ := words
  have onError {used : List String} {rest : String} (tail : Uses used rest) :
      Uses used (Record.returnOnError ++ rest) := uses_plain (by decide) tail
  refine .cons ?_ (.cons ?_ (.cons ?_ (.cons ?_ (.cons ?_ .nil))))
  · unfold Record.wrapFunction
    simp only [String.append_assoc, -String.reduceAppend]
    apply uses_plain (by decide)
    refine uses_word_before wrap (opens_stock (by decide)) (uses_package (by decide) ?_)
    apply uses_word word (by decide)
    apply uses_plain (by decide)
    apply uses_word word (by decide)
    apply uses_plain (by decide)
    exact uses_last (by decide)
  · unfold Record.newFunction
    simp only [String.append_assoc, -String.reduceAppend]
    apply uses_plain (by decide)
    refine uses_word_before new (opens_stock (by decide)) (uses_package (by decide) ?_)
    apply uses_word word (by decide)
    apply uses_plain (by decide)
    refine uses_word constant (by decide) (onError ?_)
    apply uses_plain (by decide)
    exact uses_word_before wrap (by decide) (uses_package_last (by decide))
  · unfold Record.findByIdFunction
    simp only [String.append_assoc, -String.reduceAppend]
    apply uses_plain (by decide)
    refine uses_word_before findById (opens_stock (by decide)) (uses_package (by decide) ?_)
    apply uses_word word (by decide)
    apply uses_plain (by decide)
    refine uses_word constant (by decide) (onError ?_)
    apply uses_plain (by decide)
    exact uses_word_before wrap (by decide) (uses_last (by decide))
  · unfold Record.findFirstFunction
    simp only [String.append_assoc, -String.reduceAppend]
    apply uses_plain (by decide)
    refine uses_word_before findFirst (opens_stock (by decide)) (uses_package (by decide) ?_)
    apply uses_word word (by decide)
    apply uses_plain (by decide)
    refine uses_word constant (by decide) (onError ?_)
    apply uses_plain (by decide)
    exact uses_word_before wrap (by decide) (uses_last (by decide))
  · unfold Record.findByFilterFunction
    simp only [String.append_assoc, -String.reduceAppend]
    apply uses_plain (by decide)
    refine uses_word_before findByFilter (opens_stock (by decide)) (uses_package (by decide) ?_)
    apply uses_package (by decide)
    apply uses_word word (by decide)
    apply uses_plain (by decide)
    refine uses_word constant (by decide) (onError ?_)
    apply uses_plain (by decide)
    apply uses_word word (by decide)
    apply uses_plain (by decide)
    apply uses_plain (by decide)
    apply uses_word wrap (by decide)
    apply uses_plain (by decide)
    exact uses_last (by decide)

end Blocks

theorem Enumeration.uses_head {name : String} (word : IsWord name) {used : List String}
    {rest : String} (stop : rest = "" ∨ opensWithMark rest.toList = true) (tail : Uses used rest) :
    Uses used ("type " ++ (name ++ (" string" ++ rest))) := by
  have dotted : "string".toList.all isDottedLetter = true := by decide
  have split : " string" = " " ++ "string" := by decide
  have string := uses_dotted (List.all_eq_true.mp dotted) stop tail
  rw [split, String.append_assoc]
  exact uses_plain (by decide) (uses_word word (by decide) string)

theorem Enumeration.uses_constant {name : String} (word : IsWord name)
    {constant : String × String} (constantWord : IsWord constant.1) {used : List String}
    {rest : String} (tail : Uses used rest) : Uses used (constantText name constant ++ rest) := by
  unfold constantText
  simp only [String.append_assoc, -String.reduceAppend]
  apply uses_plain (by decide)
  apply uses_word constantWord (by decide)
  apply uses_word word (by decide)
  apply uses_literal constant.2
  exact uses_plain (by decide) tail

theorem uses_enumeration {enumeration : Enumeration} (word : IsWord enumeration.name)
    (words : ∀ constant ∈ enumeration.constants, IsWord constant.1) :
    Uses [] enumeration.write := by
  have texts (constants : List (String × String))
      (constantWords : ∀ constant ∈ constants, IsWord constant.1) :
      Uses [] (String.join (constants.map (Enumeration.constantText enumeration.name)) ++ ")") := by
    induction constants with
    | nil => exact uses_last (by decide)
    | cons constant constants induction =>
        obtain ⟨constantWord, others⟩ := List.forall_mem_cons.mp constantWords
        rw [List.map_cons, String.join_cons, String.append_assoc]
        exact Enumeration.uses_constant word constantWord (induction others)
  cases held : enumeration.constants with
  | nil =>
      have head := Enumeration.uses_head word (Or.inl rfl) uses_empty
      rw [String.append_empty] at head
      simpa only [Enumeration.write, held, String.append_assoc] using head
  | cons constant constants =>
      rw [held] at words
      simp only [Enumeration.write, held, String.append_assoc]
      exact Enumeration.uses_head word (Or.inr (opens_stock (by decide)))
        (uses_plain (by decide) (texts _ words))

end CollectionTypes.Go
