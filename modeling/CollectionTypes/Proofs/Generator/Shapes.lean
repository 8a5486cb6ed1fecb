import CollectionTypes.Generator.Basic
import CollectionTypes.Proofs.Go.Fields
import CollectionTypes.Proofs.Go.Tag
import CollectionTypes.Proofs.TypeScript.Members

/-!
The JSON objects that the plain types of a model stand for, read off what is written. An interface
in TypeScript and a struct in Go are looked at for their keys alone: what each is called in JSON,
whether it may be left out, and whether it holds an array. Interfaces are read back whatever names
they hold; the tags of structs only if no name has a letter that means something in them. What a
type is made of, and what it is called, differs between the two languages and is no part of this;
neither are the records of the server.
-/

namespace CollectionTypes

open Go.Quotation Text

/-- What a type says of one key of an object. -/
@[ext]
structure KeyShape where
  /-- In UTF-8, and nothing where a tag names no key. -/
  key : Option (List UInt8)
  mayBeAbsent : Bool
  isArray : Bool
deriving DecidableEq, Repr

def KeyShape.named (name : String) (mayBeAbsent isArray : Bool) : KeyShape :=
  ⟨some (utf8 name.toList), mayBeAbsent, isArray⟩

namespace Model

def propertyShape (property : Property) : KeyShape :=
  .named property.name property.optional property.array

/-- In an expansion every record may be absent. -/
def expandedShape (property : Property) : KeyShape := .named property.name true property.array

/-- The key of the expansion stands beside the fields, unless one of them is called the same. -/
def shape (model : Model) : List KeyShape :=
  model.properties.map propertyShape ++
    if model.hasRelations && !model.hasProperty "expand" then [.named "expand" true false] else []

def expansionShape (model : Model) : List KeyShape := model.relations.map expandedShape

def shapes (model : Model) : List (List KeyShape) :=
  model.shape :: if model.hasRelations then [model.expansionShape] else []

end Model

namespace TypeScript

def MemberLine.shape (line : MemberLine) : KeyShape :=
  .named line.key line.optional ("[]".toList.isSuffixOf line.type.toList)

def readShape (text : String) : Option (List KeyShape) :=
  if "export interface ".toList.isPrefixOf text.toList then
    some ((split '\n' text).tail.dropLast.filterMap fun line => (readMember line).map (·.shape))
  else none

def TypeExpr.isArray : TypeExpr → Bool
  | .array _ => true
  | .plain _ | .emptyable _ => false

def Member.shape (member : Member) : KeyShape :=
  .named member.name member.optional member.type.isArray

/-- Brackets stand at the end of arrays, and of nothing else. -/
theorem brackets_of_type {type : TypeExpr}
    (words : ∀ name ∈ type.element.name?, Naming.IsWord name) :
    "[]".toList.isSuffixOf type.write.toList = type.isArray := by
  have last {text : String} (array : "[]".toList.isSuffixOf text.toList = true) :
      text.toList.getLast? = some ']' := by
    obtain ⟨before, same⟩ := List.isSuffixOf_iff_suffix.mp array
    rw [← same]
    exact List.getLast?_append_of_ne_nil _ (by decide)
  cases type with
  | plain element =>
      refine Bool.eq_false_iff.mpr fun array => ?_
      cases element with
      | named name =>
          have inside := List.mem_of_getLast? (last array)
          exact absurd ((words name rfl).letters ']' inside) (by decide)
      | string | number | boolean | object => exact absurd array (by decide)
  | array element =>
      rw [TypeExpr.write, String.toList_append]
      exact List.isSuffixOf_iff_suffix.mpr (List.suffix_append _ _)
  | emptyable element =>
      refine Bool.eq_false_iff.mpr fun array => ?_
      have quote := last array
      rw [TypeExpr.write, String.toList_append,
        List.getLast?_append_of_ne_nil _ (by decide)] at quote
      exact absurd quote (by decide)

theorem read_shape_of_interface {name : String} (word : Naming.IsWord name) {members : List Member}
    (words : ∀ member ∈ members, ∀ name ∈ member.type.element.name?, Naming.IsWord name) :
    readShape (Declaration.interface name members).write = some (members.map (·.shape)) := by
  have opens : "export interface ".toList.isPrefixOf
      (Declaration.interface name members).write.toList = true := by
    rw [Declaration.write_interface]
    simp only [String.toList_append, List.append_assoc]
    rfl
  rw [readShape, if_pos opens, lines_of_interface word words, List.tail_cons, List.dropLast_concat,
    List.filterMap_map]
  have read : ∀ member ∈ members,
      (readMember (Declaration.indent ++ member.write)).map (·.shape) = some member.shape := by
    intro member inside
    rw [read_member_of_write (words member inside), Option.map_some, MemberLine.shape,
      brackets_of_type (words member inside)]
    rfl
  rw [List.filterMap_congr (g := fun member => some member.shape) read, List.filterMap_eq_map']

theorem read_shape_of_enumeration (name : String) (members : List (String × String)) :
    readShape (Declaration.enumeration name members).write = none := by
  have opens : ¬"export interface ".toList.isPrefixOf
      (Declaration.enumeration name members).write.toList = true := by
    obtain ⟨rest, text⟩ : ∃ rest, (Declaration.enumeration name members).write.toList =
        "export enum ".toList ++ rest := by
      cases members with
      | nil =>
          rw [Declaration.write_empty_enumeration]
          exact ⟨_, by rw [String.append_assoc, String.toList_append]⟩
      | cons first others =>
          rw [Declaration.write_enumeration]
          simp only [String.append_assoc, String.toList_append]
          exact ⟨_, rfl⟩
    rw [text]
    exact Bool.false_ne_true
  rw [readShape, if_neg opens]

theorem is_array_of_compose (property : Property) (element : Element) :
    (compose property element).isArray = property.array := by
  unfold compose
  split
  · rename_i array
    exact array.symm
  · rename_i single
    rw [Bool.not_eq_true] at single
    split <;> exact single.symm

theorem shape_of_interface (style : Style) (symbols : Symbols) (model : Model) :
    (interfaceMembers style symbols model).map (·.shape) = model.shape := by
  have own : (Member.ofProperty style symbols · |>.shape) = Model.propertyShape := by
    funext property
    simp only [Member.shape, Member.ofProperty, typeOf, is_array_of_compose, Model.propertyShape]
  rw [interfaceMembers, List.map_append, List.map_map, Model.shape]
  congr 1
  · exact congrArg (model.properties.map ·) own
  · unfold hasExpandMember expandField
    split <;> rfl

theorem shape_of_expansion (symbols : Symbols) (model : Model) :
    (model.relations.map (Member.ofExpansion symbols)).map (·.shape) = model.expansionShape := by
  have own : (Member.ofExpansion symbols · |>.shape) = Model.expandedShape := by
    funext property
    simp only [Member.shape, Member.ofExpansion, is_array_of_compose, Model.expandedShape]
  rw [List.map_map]
  exact congrArg (model.relations.map ·) own

/-- Among the blocks of a model are its objects, in order. -/
theorem shapes_of_blocks {symbols : Symbols} (worded : symbols.Worded) (style : Style)
    (model : Model) :
    ((declarations style symbols model).map (·.write)).filterMap readShape = model.shapes := by
  have enumerations : ((model.distinctEnums.map (enumDeclaration symbols)).map
      (·.write)).filterMap readShape = [] := by
    simp [List.filterMap_map, enumDeclaration, read_shape_of_enumeration]
  have own : readShape (Declaration.interface (symbols.typeName model.name)
      (interfaceMembers style symbols model)).write = some model.shape := by
    rw [read_shape_of_interface (worded.types model.name)
      (interface_member_words worded style model), shape_of_interface]
  have expandWord : Naming.IsWord (symbols.expandName model.name) :=
    Naming.is_word_append (worded.types model.name) (Naming.literal_is_word (by decide))
  have expansion : readShape (expandDeclaration symbols model).write =
      some model.expansionShape := by
    rw [expandDeclaration, read_shape_of_interface expandWord
      (expansion_member_words worded model), shape_of_expansion]
  rw [declarations, List.map_append, List.map_append, List.filterMap_append,
    List.filterMap_append, enumerations, List.nil_append, Model.shapes]
  split
  · simp [own, expansion]
  · simp [own]

end TypeScript

namespace Go

def TypeExpr.isSlice : TypeExpr → Bool
  | .slice _ | .pointer (.slice _) => true
  | _ => false

def StructField.shape (field : StructField) : KeyShape :=
  .named field.key field.omitEmpty field.type.isSlice

def opensSlice (text : String) : Bool :=
  ["[]", "*[]"].any fun opening => opening.toList.isPrefixOf text.toList

/-- A key may be absent if the tag says that an empty value is left out. -/
def FieldLine.shape (line : FieldLine) : KeyShape :=
  ⟨Tag.jsonKey line.tag, Tag.omitsEmpty line.tag, opensSlice line.type⟩

def readShape (text : String) : Option (List KeyShape) :=
  (readStruct text).map fun struct => struct.2.filterMap (·.map (·.shape))

theorem resolved_type_single (symbols : Symbols) (property : Property) :
    (resolvedType symbols property).isSlice = false := by
  unfold resolvedType
  split <;> rfl

theorem element_type_single (style : Style) (symbols : Symbols) (property : Property) :
    (elementType style symbols property).isSlice = false := by
  unfold elementType
  cases property.kind with
  | relation =>
      dsimp only
      split
      · rfl
      · exact resolved_type_single symbols property
  | text | file | number | boolean | date | json | enumeration => rfl

/-- A pointer that makes an element optional makes no slice of it. -/
theorem pointer_to_single {element : TypeExpr} (single : element.isSlice = false) :
    (TypeExpr.pointer element).isSlice = false := by
  cases element with
  | slice inner => exact single
  | named name | objectMap | pointer target => rfl

theorem is_slice_of_type (style : Style) (symbols : Symbols) (property : Property) :
    (typeOf style symbols property).isSlice = property.array := by
  have single := element_type_single style symbols property
  simp only [typeOf]
  cases property.array with
  | true =>
      rw [if_pos rfl]
      split <;> rfl
  | false =>
      rw [if_neg Bool.false_ne_true]
      split
      · exact pointer_to_single single
      · exact single

theorem is_slice_of_expansion (symbols : Symbols) (property : Property) :
    (expandType symbols property).isSlice = property.array := by
  simp only [expandType]
  cases property.array with
  | true => rfl
  | false => exact resolved_type_single symbols property

/-- A slice is seen by how it begins, since no name begins so. -/
theorem opens_slice_of_type {type : TypeExpr} (known : type.Known) :
    opensSlice type.write = type.isSlice := by
  have closed {text : String} (noBracket : '[' ∉ text.toList) : opensSlice text = false := by
    refine Bool.eq_false_iff.mpr fun opens => ?_
    obtain ⟨opening, member, before⟩ := List.any_eq_true.mp opens
    have bracket : ∀ opening ∈ ["[]", "*[]"], '[' ∈ opening.toList := by decide
    exact noBracket ((List.isPrefixOf_iff_prefix.mp before).subset (bracket opening member))
  have named {name : String} (fits : name ∈ vocabulary ∨ Naming.IsWord name) :
      '[' ∉ name.toList := by
    have dotted := dotted_of_fits (fits.imp_right fun word => ⟨word, List.mem_singleton_self name⟩)
    exact fun inside => absurd (dotted '[' inside) (by decide)
  cases type with
  | named name => exact closed (named (known name rfl))
  | objectMap => decide
  | slice element =>
      unfold opensSlice TypeExpr.write
      simp only [String.toList_append]
      rfl
  | pointer target =>
      cases target with
      | named name =>
          refine closed ?_
          simp only [TypeExpr.write, String.toList_append, List.mem_append, not_or]
          exact ⟨by decide, named (known name rfl)⟩
      | objectMap => decide
      | slice element =>
          unfold opensSlice TypeExpr.write TypeExpr.write
          simp only [String.toList_append]
          rfl
      | pointer inner =>
          unfold opensSlice TypeExpr.write TypeExpr.write
          simp only [String.toList_append]
          rfl

namespace Struct

theorem distinguish_shape (fields : List StructField) :
    (distinguish fields).map (·.shape) = fields.map (·.shape) :=
  distinguish_view (·.shape) (fun _ _ => rfl) fields

theorem shape_of_model (style : Style) (symbols : Symbols) (model : Model) :
    (ofModel style symbols model).fields.map (·.shape) = model.shape := by
  have own : (propertyField style symbols · |>.shape) = Model.propertyShape := by
    funext property
    simp only [StructField.shape, propertyField, is_slice_of_type, Model.propertyShape]
  rw [ofModel, distinguish_shape, List.map_append, List.map_map, Model.shape]
  congr 1
  · exact congrArg (model.properties.map ·) own
  · unfold hasExpandField expandKey
    split <;> rfl

theorem shape_of_expansion (symbols : Symbols) (model : Model) :
    (expansionOf symbols model).fields.map (·.shape) = model.expansionShape := by
  have own : (expansionField symbols · |>.shape) = Model.expandedShape := by
    funext property
    simp only [StructField.shape, expansionField, is_slice_of_expansion, Model.expandedShape]
  rw [expansionOf, distinguish_shape, List.map_map]
  exact congrArg (model.relations.map ·) own

/-- What the tags of a model are made of are its keys, in order. -/
theorem shapes_of_all (style : Style) (symbols : Symbols) (model : Model) :
    (all style symbols model).map (fun struct => struct.fields.map (·.shape)) = model.shapes := by
  rw [all, List.map_cons, shape_of_model, Model.shapes]
  congr 1
  split
  · rw [List.map_singleton, shape_of_expansion]
  · rfl

end Struct

section Fields

variable {field : StructField} (known : field.Known)

include known

theorem is_array_of_line : field.line.shape.isArray = field.shape.isArray :=
  opens_slice_of_type known.2

/-- The line of a field says what the tag was made of exactly if no letter of the key is a mark. -/
theorem shape_of_line_iff : field.line.shape = field.shape ↔ Tag.isPlain field.key = true := by
  rw [← Tag.key_and_option_iff field.key field.omitEmpty]
  have array := is_array_of_line known
  constructor
  · intro same
    exact ⟨congrArg KeyShape.key same, congrArg KeyShape.mayBeAbsent same⟩
  · rintro ⟨key, option⟩
    exact KeyShape.ext key option array

end Fields

namespace Struct

theorem read_shape_of_write {struct : Struct} (known : struct.Known) (unbroken : struct.Unbroken) :
    readShape struct.write = some (struct.fields.map (·.line.shape)) := by
  rw [readShape, read_struct_of_write known unbroken]
  simp [List.filterMap_map]

variable {symbols : Symbols} (worded : symbols.Worded) (style : Style) {model : Model}

include worded

/-- The structs of a model are read, whatever comes of their tags. -/
theorem shapes_of_blocks
    (unbroken : ∀ property ∈ model.properties, '\x60' ∉ property.name.toList) :
    (blocks style symbols model).filterMap readShape =
      (all style symbols model).map fun struct => struct.fields.map (·.line.shape) := by
  have enumerations : (model.distinctEnums.map fun property =>
      (Enumeration.ofProperty symbols property).write).filterMap readShape = [] := by
    rw [List.filterMap_map, List.filterMap_eq_nil_iff]
    intro property _
    have word : Naming.IsWord (Enumeration.ofProperty symbols property).name :=
      worded.enums property
    rw [Function.comp_apply, readShape, read_struct_of_enumeration word]
    rfl
  have structs : ∀ struct ∈ all style symbols model,
      readShape struct.write = some (struct.fields.map (·.line.shape)) := fun struct member =>
    read_shape_of_write (all_known worded style model struct member)
      (unbroken_of_names unbroken struct member)
  rw [blocks_of_all, List.filterMap_append, enumerations, List.nil_append, List.filterMap_map]
  exact (List.filterMap_congr structs).trans (congrFun List.filterMap_eq_map' _)

theorem arrays_of_lines :
    (all style symbols model).map (fun struct => struct.fields.map (·.line.shape.isArray)) =
      model.shapes.map fun shape => shape.map (·.isArray) := by
  rw [← shapes_of_all style symbols, List.map_map]
  refine List.map_congr_left fun struct member => ?_
  rw [Function.comp_apply, List.map_map]
  exact List.map_congr_left fun field inStruct =>
    is_array_of_line ((all_known worded style model struct member).2 field inStruct)

/-- All lines say what their tags were made of exactly if no letter of a name is a mark. -/
theorem shapes_of_lines_iff :
    (all style symbols model).map (fun struct => struct.fields.map (·.line.shape)) =
        model.shapes ↔
      ∀ property ∈ model.properties, Tag.isPlain property.name = true := by
  have plain : Tag.isPlain expandKey = true := by decide
  rw [← shapes_of_all style symbols, List.map_inj_left,
    ← forall_keys_iff (fun key => Tag.isPlain key = true) plain]
  refine forall₂_congr fun struct member => ?_
  rw [List.map_inj_left]
  exact forall₂_congr fun field inStruct =>
    shape_of_line_iff ((all_known worded style model struct member).2 field inStruct)

end Struct

end Go

namespace Generator

/-- In both languages the output for a model consists of its enumerations and of types with the same
keys in the same order, of which the same may be absent and the same hold arrays; the types are
those of the model itself and, if it has relations, of its expansion. Styles and symbols have no
say, and neither have names as long as no tag ends at a backquote; but for the tags to be read as
they were meant, no letter of a name may be a mark in them. -/
theorem plain_types_share_shape (typeScriptModels goModels : List Model)
    (typeScriptTarget goTarget : Target) (typeScriptStyle goStyle : Style) (package : String)
    (model : Model) :
    let typeScriptSymbols := Symbols.ofModels typeScriptModels typeScriptTarget
    let goSymbols := Symbols.ofModels goModels goTarget
    let interfaces := (blocks ⟨.typeScript, typeScriptStyle, package⟩ typeScriptSymbols
      model).filterMap TypeScript.readShape
    let structs := (blocks ⟨.goStruct, goStyle, package⟩ goSymbols model).filterMap Go.readShape
    interfaces = model.shapes ∧
      (Go.Struct.all goStyle goSymbols model).map (fun struct => struct.fields.map (·.shape)) =
        model.shapes ∧
      ((∀ property ∈ model.properties, '\x60' ∉ property.name.toList) →
        structs.map (fun shape => shape.map (·.isArray)) =
          interfaces.map (fun shape => shape.map (·.isArray)) ∧
        (structs = interfaces ↔
          ∀ property ∈ model.properties, Go.Tag.isPlain property.name = true)) := by
  intro typeScriptSymbols goSymbols interfaces structs
  have typeScriptWorded : typeScriptSymbols.Worded := Symbols.of_models_worded _ _
  have goWorded : goSymbols.Worded := Symbols.of_models_worded _ _
  have read : interfaces = model.shapes :=
    TypeScript.shapes_of_blocks typeScriptWorded typeScriptStyle model
  refine ⟨read, Go.Struct.shapes_of_all goStyle goSymbols model, fun unbroken => ?_⟩
  have lines : structs = (Go.Struct.all goStyle goSymbols model).map fun struct =>
      struct.fields.map (·.line.shape) := Go.Struct.shapes_of_blocks goWorded goStyle unbroken
  constructor
  · rw [lines, read, ← Go.Struct.arrays_of_lines goWorded goStyle, List.map_map]
    exact List.map_congr_left fun struct _ => List.map_map
  · rw [lines, read]
    exact Go.Struct.shapes_of_lines_iff goWorded goStyle

def textsModel (first second : String) : Model :=
  ⟨{ name := "posts" }, [
    { name := first, owner := "posts", kind := .text, data := .plain },
    { name := second, owner := "posts", optional := true, kind := .text, data := .plain }]⟩

theorem plain_types_share_shape_of_accents :
    (Go.Struct.blocks {} {} (textsModel "été" "a b")).filterMap Go.readShape =
      [[.named "été" false false, .named "a b" true false]] := by
  have unbroken : ∀ property ∈ (textsModel "été" "a b").properties,
      '\x60' ∉ property.name.toList := by decide
  have plain : ∀ property ∈ (textsModel "été" "a b").properties,
      Go.Tag.isPlain property.name = true := by decide
  obtain ⟨read, _, settled⟩ := plain_types_share_shape [] [] .typeScript .goStruct {} {} "models"
    (textsModel "été" "a b")
  obtain ⟨_, same⟩ := settled unbroken
  exact (same.mpr plain).trans read

/-- A comma makes an option of what follows it, and a quote ends the key before the option. -/
theorem marked_names_differ :
    (TypeScript.declarations {} {} (textsModel "a,omitempty" "say \"hi\"")).filterMap
        (fun declaration => TypeScript.readShape declaration.write) =
      [[.named "a,omitempty" false false, .named "say \"hi\"" true false]] ∧
    (Go.Struct.blocks {} {} (textsModel "a,omitempty" "say \"hi\"")).filterMap Go.readShape =
      [[.named "a" true false, .named "say " false false]] := by
  decide +kernel

end Generator

end CollectionTypes
