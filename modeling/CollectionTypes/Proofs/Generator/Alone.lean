import CollectionTypes.Generator.Basic
import CollectionTypes.Proofs.Generator.Symbols

/-!
Models written together and models written alone. As long as no two groups of names meet under their
plain stems, nothing is renamed, so that a model's text does not depend on what it is written with.
Groups are those that are claimed: the name of an expansion counts even where there is none.
-/

namespace CollectionTypes

/-- Under their plain stems two claimants declare no name in common. -/
def Claimant.Apart (target : Target) (left right : Claimant) : Prop :=
  ∀ name ∈ left.declares target left.stem, name ∉ right.declares target right.stem

instance (target : Target) (left right : Claimant) : Decidable (left.Apart target right) :=
  inferInstanceAs (Decidable (∀ name ∈ _, _))

/-- No two collections or enumerations want a name in common; models of one name always do. -/
def PlainlyApart (target : Target) (models : List Model) : Prop :=
  (Claimant.ofModels models).Pairwise (Claimant.Apart target)

instance (target : Target) (models : List Model) : Decidable (PlainlyApart target models) :=
  inferInstanceAs (Decidable (List.Pairwise _ _))

namespace Symbols

structure Plain (symbols : Symbols) : Prop where
  types : ∀ collection, symbols.typeName collection = Go.exportedName collection
  enums : ∀ property, symbols.enumName property = enumStem property

/-- Symbols that give the same names, whether they know them or fall back on them. -/
structure Agree (left right : Symbols) : Prop where
  types : ∀ collection, left.typeName collection = right.typeName collection
  enums : ∀ property, left.enumName property = right.enumName property

theorem Plain.agree {left right : Symbols} (leftPlain : left.Plain) (rightPlain : right.Plain) :
    left.Agree right where
  types collection := (leftPlain.types collection).trans (rightPlain.types collection).symm
  enums property := (leftPlain.enums property).trans (rightPlain.enums property).symm

end Symbols

namespace Allocation

variable {target : Target}

/-- A claimant whose plain group is free takes it. -/
theorem add_plain {allocation : Allocation} {claimant : Claimant}
    (unknown : claimant.name? allocation.symbols = none)
    (free : allocation.space.isFree (claimant.declares target claimant.stem) = true) :
    claimant.name? (allocation.add target claimant).symbols = some claimant.stem ∧
      (allocation.add target claimant).space =
        allocation.space.add (claimant.declares target claimant.stem) := by
  have added := add_unknown target unknown
  have first : Namespace.FirstFree allocation.space claimant.stem
      (claimant.declares target) 1 :=
    ⟨le_refl 1, free, fun earlier positive before => absurd before (by omega)⟩
  have claim := Namespace.claim_group_of_first_free (claimant.declares_traceable target) first
  have stem : Namespace.candidate claimant.stem 1 = claimant.stem := rfl
  rw [stem] at claim
  exact ⟨by rw [added.named, claim], by rw [added.space, claim]⟩

/-- A run over groups that are free and apart gives plain names only. -/
theorem run_plain {claimants : List Claimant} {allocation : Allocation}
    (plain : ∀ claimant : Claimant, claimant.name allocation.symbols = claimant.stem)
    (free : ∀ claimant ∈ claimants,
      allocation.space.isFree (claimant.declares target claimant.stem) = true)
    (apart : claimants.Pairwise (Claimant.Apart target)) :
    ∀ claimant : Claimant,
      claimant.name (claimants.foldl (add target) allocation).symbols = claimant.stem := by
  induction claimants generalizing allocation with
  | nil => exact plain
  | cons first claimants induction =>
      obtain ⟨fromFirst, later⟩ := List.pairwise_cons.mp apart
      rw [List.foldl_cons]
      cases found : first.name? allocation.symbols with
      | some name =>
          rw [add_known found]
          exact induction plain (fun claimant member => free claimant (by simp [member])) later
      | none =>
          have added := add_unknown target found
          obtain ⟨named, space⟩ := add_plain found (free first (List.mem_cons_self ..))
          refine induction ?_ ?_ later
          · intro claimant
            by_cases same : claimant.key = first.key
            · rw [Claimant.name, Claimant.name_of_key same, named, Claimant.stem_of_key same,
                Option.getD_some]
            · rw [(group_of_others added same).1, plain claimant]
          · intro claimant member
            rw [Namespace.is_free_iff, space]
            intro name declared taken
            rcases List.mem_append.mp taken with own | before
            · exact fromFirst claimant member name own declared
            · exact (Namespace.is_free_iff _ _).mp
                (free claimant (List.mem_cons_of_mem _ member)) name declared before

end Allocation

theorem Symbols.of_apart_models_plain {models : List Model} {target : Target}
    (apart : PlainlyApart target models) : (Symbols.ofModels models target).Plain := by
  have empty (claimant : Claimant) : claimant.name ({} : Allocation).symbols = claimant.stem := by
    cases claimant <;> simp [Claimant.name, Claimant.name?, Symbols.typeName?, Symbols.enumName?]
  have free : ∀ claimant ∈ Claimant.ofModels models, ({} : Allocation).space.isFree
      (claimant.declares target claimant.stem) = true := by
    intro claimant _
    rw [Namespace.is_free_iff]
    exact fun _ _ => List.not_mem_nil
  have plain := Allocation.run_plain empty free apart
  rw [← Allocation.of_models_eq_run] at plain
  exact ⟨fun collection => plain (.collection collection),
    fun property => plain (.enumeration property)⟩

/-- The claimants of some of the models, in any order, are apart if those of all models are. -/
theorem PlainlyApart.of_subperm {target : Target} {models others : List Model}
    (apart : PlainlyApart target models) (some : others.Subperm models) :
    PlainlyApart target others := by
  obtain ⟨order, same, sublist⟩ := some
  have claimants (left right : List Model) : left.Perm right →
      (Claimant.ofModels left).Perm (Claimant.ofModels right) := fun perm =>
    (perm.map _).append ((perm.flatMap_right _).map _)
  have inOrder : PlainlyApart target order := apart.sublist
    ((sublist.map _).append ((List.Sublist.flatMap sublist _).map _))
  refine ((claimants _ _ same).pairwise_iff ?_).mp inOrder
  exact fun disjoint name inRight inLeft => disjoint name inLeft inRight

section Agree

variable {left right : Symbols} (agree : left.Agree right)

include agree

namespace TypeScript

theorem declarations_agree (style : Style) (model : Model) :
    declarations style left model = declarations style right model := by
  have enums : enumDeclaration left = enumDeclaration right := by
    funext property
    simp only [enumDeclaration, agree.enums]
  have resolved : resolvedElement left = resolvedElement right := by
    funext property
    simp only [resolvedElement, agree.types]
  have members : Member.ofProperty style left = Member.ofProperty style right := by
    funext property
    simp only [Member.ofProperty, typeOf, elementType, agree.enums, resolved]
  have expanded : Member.ofExpansion left = Member.ofExpansion right := by
    funext property
    simp only [Member.ofExpansion, resolved]
  simp only [declarations, interfaceMembers, expandDeclaration, Symbols.expandName, enums, members,
    expanded, agree.types]

end TypeScript

namespace Go

theorem enumeration_agree : Enumeration.ofProperty left = Enumeration.ofProperty right := by
  funext property
  simp only [Enumeration.ofProperty, agree.enums]

theorem resolved_type_agree : resolvedType left = resolvedType right := by
  funext property
  simp only [resolvedType, agree.types]

theorem struct_blocks_agree (style : Style) (model : Model) :
    Struct.blocks style left model = Struct.blocks style right model := by
  have resolved := resolved_type_agree agree
  have element : elementType style left = elementType style right := by
    funext property
    simp only [elementType, agree.enums, resolved]
  have fields : Struct.propertyField style left = Struct.propertyField style right := by
    funext property
    simp only [Struct.propertyField, typeOf, element]
  have expanded : Struct.expansionField left = Struct.expansionField right := by
    funext property
    simp only [Struct.expansionField, expandType, resolved]
  simp only [Struct.blocks, Struct.ofModel, Struct.expansionOf, Struct.expandFieldOf,
    Symbols.expandName, enumeration_agree agree, fields, expanded, agree.types]

theorem methods_agree (space : Namespace) (property : Property) :
    Record.methodsOf left space property = Record.methodsOf right space property := by
  have type : valueType left property = valueType right property := by
    simp only [valueType, agree.enums]
  have reading : Reading.ofProperty left property = Reading.ofProperty right property := by
    simp only [Reading.ofProperty, agree.enums]
  have expansion : Expansion.ofProperty left property = Expansion.ofProperty right property := by
    simp only [Expansion.ofProperty, agree.types]
  simp only [Record.methodsOf, type, reading, expansion]

theorem all_methods_agree (space : Namespace) (properties : List Property) :
    Record.allMethods left space properties = Record.allMethods right space properties := by
  induction properties generalizing space with
  | nil => rfl
  | cons property properties induction =>
      simp only [Record.allMethods, methods_agree agree, induction]

theorem record_blocks_agree (model : Model) :
    Record.blocks left model = Record.blocks right model := by
  simp only [Record.blocks, Record.methods, enumeration_agree agree, all_methods_agree agree,
    agree.types]

end Go

namespace Generator

/-- A text asks symbols for nothing but names. -/
theorem render_with_agree (generator : Generator) (model : Model) :
    generator.renderWith left model = generator.renderWith right model := by
  cases target : generator.target with
  | typeScript =>
      simp only [renderWith, blocks, target, TypeScript.declarations_agree agree]
  | goStruct =>
      simp only [renderWith, blocks, target, Go.struct_blocks_agree agree]
  | goRecord =>
      simp only [renderWith, blocks, target, Go.record_blocks_agree agree]

end Generator

end Agree

namespace Generator

def renderAlone (target : Target) (style : Style) (model : Model) : String :=
  (Generator.mk target style defaultPackage).render model

theorem header_of_perm (generator : Generator) {order models : List Model}
    (same : order.Perm models) : generator.header? order = generator.header? models := by
  have dates : Go.usesDates order = Go.usesDates models := same.any_eq
  cases target : generator.target <;>
    simp only [header?, target, Go.structImports, Go.recordImports, dates]

theorem render_alone_of_plain (generator : Generator) {models : List Model}
    (apart : PlainlyApart generator.target models) {model : Model} (member : model ∈ models) :
    generator.renderWith (Symbols.ofModels models generator.target) model =
      renderAlone generator.target generator.style model := by
  have alone : PlainlyApart generator.target [model] :=
    apart.of_subperm (List.singleton_subperm_iff.mpr member)
  have agree := (Symbols.of_apart_models_plain apart).agree (Symbols.of_apart_models_plain alone)
  exact render_with_agree agree generator model

/-- Under groups that are apart every name is plain, and an output is its header and the texts of
its models, each written alone; other orders of the models give the same texts in their order. -/
theorem generate_eq_alone (generator : Generator) {models : List Model} (some : models ≠ [])
    (apart : PlainlyApart generator.target models) :
    (Symbols.ofModels models generator.target).Plain ∧
      generator.generate models = joinBlocks ((generator.header? models).toList ++
        models.map (renderAlone generator.target generator.style)) ++ "\n" ∧
      ∀ order, order.Perm models →
        generator.generate order = joinBlocks ((generator.header? models).toList ++
          order.map (renderAlone generator.target generator.style)) ++ "\n" := by
  have ordered : ∀ order, order.Perm models →
      generator.generate order = joinBlocks ((generator.header? models).toList ++
        order.map (renderAlone generator.target generator.style)) ++ "\n" := by
    intro order same
    have filled : order.isEmpty = false :=
      List.isEmpty_eq_false_iff.mpr fun none => some (List.nil_perm.mp (none ▸ same))
    have orderApart := apart.of_subperm same.subperm
    have texts : order.map (generator.renderWith (Symbols.ofModels order generator.target)) =
        order.map (renderAlone generator.target generator.style) :=
      List.map_congr_left fun model member => render_alone_of_plain generator orderApart member
    rw [generate, filled, ← header_of_perm generator same, ← texts]
    rfl
  exact ⟨Symbols.of_apart_models_plain apart, ordered models (List.Perm.refl _), ordered⟩

def blogModels : List Model := [
    ⟨{ name := "posts" }, [
      { name := "state", owner := "posts", kind := .enumeration, data := .options ["draft"] },
      { name := "author", owner := "posts", kind := .relation,
        data := .relation (.resolved "authors") },
      { name := "tags", owner := "posts", kind := .relation, array := true,
        data := .relation (.resolved "tags") }]⟩,
    ⟨{ name := "authors" }, [{ name := "born", owner := "authors", kind := .date, data := .plain }]⟩
  ]

theorem generate_eq_alone_blog :
    blogModels ≠ [] ∧ PlainlyApart .goRecord blogModels ∧
      (forTarget .goRecord).generate blogModels.reverse =
        joinBlocks (((forTarget .goRecord).header? blogModels).toList ++
          blogModels.reverse.map (renderAlone .goRecord Target.goRecord.defaultStyle)) ++ "\n" := by
  have some : blogModels ≠ [] := by decide
  have apart : PlainlyApart .goRecord blogModels := by decide +kernel
  exact ⟨some, apart, (generate_eq_alone (forTarget .goRecord) some apart).2.2 _
    (List.reverse_perm _)⟩

end Generator

end CollectionTypes
