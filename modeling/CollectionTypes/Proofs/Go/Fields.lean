import CollectionTypes.Proofs.Go.Usage

/-!
Structs read back from their text. The reader knows nothing of the model: a line of code ends at a
line feed that stands in no raw string, and between the head of a struct and its last brace each
line holds a name, a type and a tag. A key that ends its raw string makes other lines than the ones
that were meant, and these are read as they stand. What a tag says is no part of this.
-/

namespace CollectionTypes.Go

open Naming Text

structure FieldLine where
  name : String
  type : String
  tag : String
deriving DecidableEq

def onto (letters : List Char) (lines : List (List Char)) : List (List Char) :=
  (letters ++ lines.headD []) :: lines.tail

def codeLines (inRaw : Bool) : List Char → List (List Char)
  | [] => [[]]
  | letter :: rest =>
      if letter = '\n' && !inRaw then [] :: codeLines inRaw rest
      else onto [letter] (codeLines (if letter = '\x60' then !inRaw else inRaw) rest)

def readField (line : List Char) : Option FieldLine := do
  let letters ← line.dropPrefix? ['\t']
  let typed ← (letters.dropWhile (· ≠ ' ')).dropPrefix? [' ']
  let tag ← (typed.dropWhile (· ≠ ' ')).dropPrefix? [' ']
  some ⟨String.ofList (letters.takeWhile (· ≠ ' ')), String.ofList (typed.takeWhile (· ≠ ' ')),
    String.ofList tag⟩

def structName? (head : List Char) : Option String := do
  let named ← head.dropPrefix? "type ".toList
  if named.dropWhile isWordLetter = " struct \x7b".toList then
    some (String.ofList (named.takeWhile isWordLetter))
  else none

/-- The name of a struct and what its lines say; a line that is no tagged field says nothing. -/
def readStruct (text : String) : Option (String × List (Option FieldLine)) :=
  let lines := codeLines false text.toList
  (structName? (lines.headD [])).map fun name => (name, lines.tail.dropLast.map readField)

section Lines

variable {letters body rest : List Char}

theorem onto_onto (first second : List Char) (lines : List (List Char)) :
    onto first (onto second lines) = onto (first ++ second) lines := by
  simp [onto]

theorem onto_nil (inRaw : Bool) (letters : List Char) :
    onto [] (codeLines inRaw letters) = codeLines inRaw letters := by
  cases letters with
  | nil => rfl
  | cons letter rest =>
      rw [codeLines]
      split <;> rfl

/-- Letters that neither end a line nor open a raw string. -/
theorem code_lines_outside (plain : ∀ letter ∈ letters, letter ≠ '\n' ∧ letter ≠ '\x60')
    (rest : List Char) :
    codeLines false (letters ++ rest) = onto letters (codeLines false rest) := by
  induction letters with
  | nil => exact (onto_nil false rest).symm
  | cons letter letters induction =>
      obtain ⟨own, others⟩ := List.forall_mem_cons.mp plain
      rw [List.cons_append, codeLines, if_neg (by simp [own.1]), if_neg own.2, induction others,
        onto_onto]
      rfl

/-- A raw string is on one line, whatever it holds. -/
theorem code_lines_raw (whole : '\x60' ∉ body) (rest : List Char) :
    codeLines false ('\x60' :: (body ++ '\x60' :: rest)) =
      onto ('\x60' :: (body ++ ['\x60'])) (codeLines false rest) := by
  have inside : codeLines true (body ++ '\x60' :: rest) =
      onto (body ++ ['\x60']) (codeLines false rest) := by
    induction body with
    | nil => rfl
    | cons letter body induction =>
        have other : letter ≠ '\x60' := fun same => whole (same ▸ List.mem_cons_self ..)
        have tail := induction fun member => whole (List.mem_cons_of_mem _ member)
        rw [List.cons_append, codeLines, if_neg (by simp), if_neg other, tail, onto_onto]
        rfl
  have opened : codeLines false ('\x60' :: (body ++ '\x60' :: rest)) =
      onto ['\x60'] (codeLines true (body ++ '\x60' :: rest)) := rfl
  rw [opened, inside, onto_onto]
  rfl

theorem code_lines_end (letters rest : List Char) :
    onto letters (codeLines false ('\n' :: rest)) = letters :: codeLines false rest := by
  have ended : codeLines false ('\n' :: rest) = [] :: codeLines false rest := rfl
  simp [ended, onto]

theorem first_code_line (plain : ∀ letter ∈ letters, letter ≠ '\n' ∧ letter ≠ '\x60')
    (ends : rest = [] ∨ rest.head? = some '\n') :
    (codeLines false (letters ++ rest)).headD [] = letters := by
  have ended : (codeLines false rest).headD [] = [] := by
    cases rest with
    | nil => rfl
    | cons first rest =>
        obtain rfl : first = '\n' := by simpa using ends
        rfl
  rw [code_lines_outside plain, onto, ended, List.append_nil]
  rfl

/-- A text that begins with no `t` is no struct. -/
theorem read_struct_none {text : String} {first : Char} (letters : text.toList = first :: rest)
    (other : first ≠ 't') : readStruct text = none := by
  have head : ((codeLines false text.toList).headD []).dropPrefix? "type ".toList = none := by
    rw [letters, codeLines]
    split
    · rfl
    · simp [onto, List.dropPrefix?, other]
  simp only [readStruct, structName?, head]
  rfl

end Lines

def isTypeLetter (letter : Char) : Bool := isDottedLetter letter || "*[]".toList.contains letter

theorem TypeExpr.letters {type : TypeExpr} (known : type.Known) :
    ∀ letter ∈ type.write.toList, isTypeLetter letter = true := by
  have marks {letters : List Char} (mark : letters.all isTypeLetter = true) {held : String}
      (own : ∀ letter ∈ held.toList, isTypeLetter letter = true) :
      ∀ letter ∈ (String.ofList letters ++ held).toList, isTypeLetter letter = true := by
    intro letter member
    rw [String.toList_append, String.toList_ofList] at member
    exact (List.mem_append.mp member).elim (List.all_eq_true.mp mark letter) (own letter)
  induction type with
  | named name =>
      have fits : Fits [name] name := (known name rfl).imp_right fun word =>
        ⟨word, List.mem_singleton_self name⟩
      intro letter member
      simp [isTypeLetter, dotted_of_fits fits letter member]
  | objectMap => exact List.all_eq_true.mp (by decide)
  | pointer target induction => exact marks (by decide) (induction known)
  | slice element induction => exact marks (by decide) (induction known)

/-- A blank, a line feed and a backquote are no part of a word or of a type. -/
theorem spelling_of_type_letter {letter : Char} (spelled : isTypeLetter letter = true) :
    letter ≠ ' ' ∧ letter ≠ '\n' ∧ letter ≠ '\x60' := by
  refine ⟨?_, ?_, ?_⟩
  all_goals
    rintro rfl
    exact absurd spelled (by decide)

theorem type_letters_of_word {name : String} (word : IsWord name) :
    ∀ letter ∈ name.toList, isTypeLetter letter = true := fun letter member => by
  simp [isTypeLetter, dotted_of_word word letter member]

section Heads

variable {name : String} (word : IsWord name)

include word

theorem type_head_on_line {kind : String}
    (plain : kind.toList.all (fun letter => letter ≠ '\n' && letter ≠ '\x60') = true) :
    ∀ letter ∈ ("type " ++ name ++ kind).toList, letter ≠ '\n' ∧ letter ≠ '\x60' := by
  have opening : ∀ letter ∈ "type ".toList, letter ≠ '\n' ∧ letter ≠ '\x60' := by simp
  intro letter member
  simp only [String.toList_append, List.mem_append] at member
  rcases member with (fixed | inName) | inKind
  · exact opening letter fixed
  · exact (spelling_of_type_letter (type_letters_of_word word letter inName)).2
  · simpa using List.all_eq_true.mp plain letter inKind

/-- What is declared as a struct has the name in front of that. -/
theorem struct_name_of_head (kind : List Char) :
    structName? ("type " ++ name ++ String.ofList (' ' :: kind)).toList =
      if ' ' :: kind = " struct \x7b".toList then some name else none := by
  have letters : ("type " ++ name ++ String.ofList (' ' :: kind)).toList =
      "type ".toList ++ (name.toList ++ ' ' :: kind) := by
    simp
  obtain ⟨taken, left⟩ := run_until word.letters ' ' (by decide) kind
  rw [structName?, letters, List.dropPrefix?_append_of_beq _ (beq_self_eq_true _)]
  simp only [Option.bind_eq_bind, Option.bind_some, taken, left, String.ofList_toList]

end Heads

def StructField.line (field : StructField) : FieldLine :=
  ⟨field.name, field.type.write, jsonTag field.key field.omitEmpty⟩

section Fields

variable {field : StructField} (known : field.Known)

include known

theorem field_spelling : (∀ letter ∈ field.name.toList, letter ≠ ' ' ∧ letter ≠ '\n' ∧
      letter ≠ '\x60') ∧ ∀ letter ∈ field.type.write.toList, letter ≠ ' ' ∧ letter ≠ '\n' ∧
      letter ≠ '\x60' :=
  ⟨fun letter member => spelling_of_type_letter (type_letters_of_word known.1 letter member),
    fun letter member => spelling_of_type_letter (TypeExpr.letters known.2 letter member)⟩

/-- A field is read off its own line, whatever its key. -/
theorem read_field_of_write :
    readField ("\t" ++ field.write).toList = some field.line := by
  have blank {letters : List Char} (spelled : ∀ letter ∈ letters, letter ≠ ' ' ∧ letter ≠ '\n' ∧
      letter ≠ '\x60') : ∀ letter ∈ letters, decide (letter ≠ ' ') = true :=
    fun letter member => decide_eq_true (spelled letter member).1
  obtain ⟨name, type⟩ := field_spelling known
  let tag := (jsonTag field.key field.omitEmpty).toList
  have line : ("\t" ++ field.write).toList =
      ['\t'] ++ (field.name.toList ++ ' ' :: (field.type.write.toList ++ ' ' :: tag)) := by
    simp [StructField.write, tag]
  obtain ⟨nameTaken, nameLeft⟩ := run_until (blank name) ' ' (by decide)
    (field.type.write.toList ++ ' ' :: tag)
  obtain ⟨typeTaken, typeLeft⟩ := run_until (blank type) ' ' (by decide) tag
  have blankDropped (rest : List Char) : (' ' :: rest).dropPrefix? [' '] = some rest := by
    simp [List.dropPrefix?]
  rw [readField, line, List.dropPrefix?_append_of_beq _ (beq_self_eq_true _)]
  simp only [Option.bind_eq_bind, Option.bind_some, nameTaken, nameLeft, blankDropped, typeTaken,
    typeLeft, String.ofList_toList, tag]
  rfl

theorem field_on_line (unbroken : '\x60' ∉ field.key.toList) (rest : List Char) :
    codeLines false (("\t" ++ field.write ++ "\n").toList ++ rest) =
      ("\t" ++ field.write).toList :: codeLines false rest := by
  obtain ⟨name, type⟩ := field_spelling known
  let code := '\t' :: (field.name.toList ++ ' ' :: (field.type.write.toList ++ [' ']))
  let body := "json:\"".toList ++ (field.key.toList ++
    ((if field.omitEmpty then ",omitempty" else "").toList ++ ['"']))
  have plain : ∀ letter ∈ code, letter ≠ '\n' ∧ letter ≠ '\x60' := by
    intro letter member
    simp only [code, List.mem_cons, List.mem_append, List.not_mem_nil, or_false] at member
    rcases member with rfl | inName | rfl | inType | rfl
    · decide
    · exact (name letter inName).2
    · decide
    · exact (type letter inType).2
    · decide
  have whole : '\x60' ∉ body := by
    cases omit' : field.omitEmpty <;> simp [body, unbroken, omit']
  have text : ("\t" ++ field.write).toList = code ++ '\x60' :: (body ++ ['\x60']) := by
    simp [StructField.write, jsonTag, code, body]
  have line : ("\t" ++ field.write ++ "\n").toList ++ rest =
      code ++ '\x60' :: (body ++ '\x60' :: '\n' :: rest) := by
    rw [String.toList_append, text]
    simp
  rw [line, text, code_lines_outside plain, code_lines_raw whole, code_lines_end]
  rfl

end Fields

/-- The lines of a struct say what its fields are, as long as no key ends its tag. -/
theorem read_struct_of_write {struct : Struct} (known : struct.Known)
    (unbroken : struct.Unbroken) :
    readStruct struct.write =
      some (struct.name, struct.fields.map fun field => some field.line) := by
  let head := ("type " ++ struct.name ++ " struct \x7b").toList
  have lines (fields : List StructField) (each : ∀ field ∈ fields, field.Known)
      (whole : ∀ field ∈ fields, '\x60' ∉ field.key.toList) :
      codeLines false ((String.join (fields.map fun field => "\t" ++ field.write ++ "\n")).toList ++
        ['\x7d']) = fields.map (fun field => ("\t" ++ field.write).toList) ++ [['\x7d']] := by
    induction fields with
    | nil => rfl
    | cons field fields induction =>
        obtain ⟨own, others⟩ := List.forall_mem_cons.mp each
        obtain ⟨ownWhole, othersWhole⟩ := List.forall_mem_cons.mp whole
        rw [List.map_cons, String.join_cons, String.toList_append, List.append_assoc,
          field_on_line own ownWhole, induction others othersWhole]
        rfl
  have text : struct.write.toList = head ++ '\n' ::
      ((String.join (struct.fields.map fun field => "\t" ++ field.write ++ "\n")).toList ++
        ['\x7d']) := by
    simp [Struct.write, head]
  have named : structName? head = some struct.name :=
    (struct_name_of_head known.1 "struct \x7b".toList).trans (if_pos rfl)
  have plain : ∀ letter ∈ head, letter ≠ '\n' ∧ letter ≠ '\x60' :=
    type_head_on_line known.1 (by decide)
  rw [readStruct, text, code_lines_outside plain, code_lines_end, lines _ known.2 unbroken]
  simp only [List.headD_cons, named, Option.map_some, List.tail_cons, List.dropLast_concat,
    List.map_map]
  congr 2
  exact List.map_congr_left fun field member => read_field_of_write (known.2 field member)

theorem read_struct_of_enumeration {enumeration : Enumeration} (word : IsWord enumeration.name) :
    readStruct enumeration.write = none := by
  let head := ("type " ++ enumeration.name ++ " string").toList
  obtain ⟨rest, text, ends⟩ : ∃ rest, enumeration.write.toList = head ++ rest ∧
      (rest = [] ∨ rest.head? = some '\n') := by
    rw [Enumeration.write]
    split
    · exact ⟨[], (List.append_nil _).symm, Or.inl rfl⟩
    · simp only [String.toList_append, List.append_assoc, head]
      exact ⟨_, rfl, Or.inr rfl⟩
  have plain : ∀ letter ∈ head, letter ≠ '\n' ∧ letter ≠ '\x60' :=
    type_head_on_line word (by decide)
  have noStruct : structName? head = none :=
    (struct_name_of_head word "string".toList).trans (if_neg (by decide))
  rw [readStruct, text, first_code_line plain ends, noStruct]
  rfl

end CollectionTypes.Go
