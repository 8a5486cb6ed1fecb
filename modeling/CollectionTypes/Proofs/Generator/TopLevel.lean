import CollectionTypes.Proofs.Generator.Outline
import Mathlib.Data.List.Flatten
import Mathlib.Data.List.Perm.Basic

/-!
The top level of an output: which block belongs to which claimant, and that the names read off all
blocks are pairwise distinct. The header is no claimant's block: it declares a package and imports.
Blocks are read as the outline reads them, so that what a backquote lets out of a tag is left out.
-/

namespace CollectionTypes.Generator

open Naming Outline

def enumBlock (generator : Generator) (symbols : Symbols) (property : Property) : String :=
  match generator.target with
  | .typeScript => (TypeScript.enumDeclaration symbols property).write
  | .goStruct | .goRecord => (Go.Enumeration.ofProperty symbols property).write

def collectionBlocks (generator : Generator) (symbols : Symbols) (model : Model) : List String :=
  match generator.target with
  | .typeScript =>
      (TypeScript.Declaration.interface (symbols.typeName model.name)
        (TypeScript.interfaceMembers generator.style symbols model)).write ::
      if model.hasRelations then [(TypeScript.expandDeclaration symbols model).write] else []
  | .goStruct =>
      (Go.Struct.ofModel generator.style symbols model).write ::
      if model.hasRelations then [(Go.Struct.expansionOf symbols model).write] else []
  | .goRecord =>
      Go.Record.collectionConstantBlock (symbols.typeName model.name) model.name ::
      Go.Record.typeBlock (symbols.typeName model.name) ::
      ((Go.Record.methods symbols model).map (·.write (symbols.typeName model.name)) ++
        Go.Record.functionBlocks (symbols.typeName model.name))

/-- The blocks of a model, each with the claimant whose names it declares. -/
def outline (generator : Generator) (symbols : Symbols) (model : Model) :
    List (Claimant × String) :=
  model.distinctEnums.map
      (fun property => (.enumeration property, generator.enumBlock symbols property)) ++
    (generator.collectionBlocks symbols model).map fun block => (.collection model.name, block)

def fileOutline (generator : Generator) (models : List Model) : List (Claimant × String) :=
  models.flatMap (generator.outline (Symbols.ofModels models generator.target))

theorem outline_blocks (generator : Generator) (symbols : Symbols) (model : Model) :
    (generator.outline symbols model).map Prod.snd = generator.blocks symbols model := by
  cases target : generator.target <;>
    simp [outline, blocks, enumBlock, collectionBlocks, target, TypeScript.declarations,
      Go.Struct.blocks, Go.Record.blocks, Function.comp_def, apply_ite]

theorem blocks_ne_nil (generator : Generator) (symbols : Symbols) (model : Model) :
    generator.blocks symbols model ≠ [] := by
  rw [← outline_blocks]
  cases target : generator.target <;> simp [outline, collectionBlocks, target]

theorem join_blocks_flatten (groups : List (List String))
    (nonempty : ∀ group ∈ groups, group ≠ []) :
    joinBlocks (groups.map joinBlocks) = joinBlocks groups.flatten := by
  induction groups with
  | nil => rfl
  | cons group groups induction =>
      have tail := induction fun other member => nonempty other (List.mem_cons_of_mem _ member)
      have headNonempty := nonempty group (List.mem_cons_self ..)
      cases groups with
      | nil => simp [joinBlocks, String.intercalate_singleton]
      | cons next groups =>
          have nextNonempty : (next :: groups).flatten ≠ [] := by
            simp [nonempty next (by simp)]
          unfold joinBlocks at tail ⊢
          calc "\n\n".intercalate ((group :: next :: groups).map fun blocks =>
                  "\n\n".intercalate blocks)
              = "\n\n".intercalate group ++ "\n\n" ++
                  "\n\n".intercalate (next :: groups).flatten := by
                rw [List.map_cons, String.intercalate_cons_of_ne_nil (by simp), tail]
            _ = "\n\n".intercalate (group ++ (next :: groups).flatten) :=
                (String.intercalate_append_of_ne_nil headNonempty nextNonempty).symm

/-- The text of an output is its header and the blocks of its outline. -/
theorem generate_eq_outline (generator : Generator) {models : List Model} (some : models ≠ []) :
    generator.generate models = joinBlocks ((generator.header? models).toList ++
      (generator.fileOutline models).map Prod.snd) ++ "\n" := by
  have filled : models.isEmpty = false := List.isEmpty_eq_false_iff.mpr some
  let symbols := Symbols.ofModels models generator.target
  let groups := (generator.header? models).toList.map (fun header => [header]) ++
    models.map (generator.blocks symbols)
  have nonempty : ∀ group ∈ groups, group ≠ [] := by
    intro group member
    rcases List.mem_append.mp member with header | body
    · obtain ⟨text, _, rfl⟩ := List.mem_map.mp header
      simp
    · obtain ⟨model, _, rfl⟩ := List.mem_map.mp body
      exact generator.blocks_ne_nil symbols model
  have flat : groups.flatten = (generator.header? models).toList ++
      (generator.fileOutline models).map Prod.snd := by
    simp only [groups, fileOutline, List.map_flatMap, outline_blocks, List.flatten_append]
    cases generator.header? models <;> simp [List.flatMap_def, symbols]
  have joined : groups.map joinBlocks = (generator.header? models).toList ++
      models.map (generator.renderWith symbols) := by
    have single : joinBlocks ∘ (fun header => [header]) = id := by
      funext header
      simp [joinBlocks]
    simp only [groups, List.map_append, List.map_map, single, List.map_id]
    rfl
  rw [← flat, ← join_blocks_flatten groups nonempty, joined, generate, filled]
  rfl

/-- The names of a model's group that its blocks declare: an expansion only if there is one. -/
def renderedGroup (target : Target) (symbols : Symbols) (model : Model) : List String :=
  match target with
  | .typeScript | .goStruct => symbols.typeName model.name ::
      if model.hasRelations then [symbols.expandName model.name] else []
  | .goRecord => target.collectionDeclarations (symbols.typeName model.name)

theorem rendered_group_sublist (target : Target) (symbols : Symbols) (model : Model) :
    (renderedGroup target symbols model).Sublist
      ((Claimant.collection model.name).group target symbols) := by
  cases target with
  | typeScript | goStruct =>
      apply List.Sublist.cons_cons
      split
      · exact List.Sublist.refl _
      · exact List.nil_sublist _
  | goRecord => exact List.Sublist.refl _

section Worded

variable {symbols : Symbols} (worded : symbols.Worded)

include worded

theorem declared_in_enum_block (generator : Generator) (property : Property) :
    declaredIn (generator.enumBlock symbols property) =
      (Claimant.enumeration property).group generator.target symbols := by
  have word : IsWord (symbols.enumName property) := worded.enums property
  have constants : declaredIn (Go.Enumeration.ofProperty symbols property).write =
      symbols.enumName property ::
        Go.constantNames (symbols.enumName property) property.options := by
    have names : (Go.Enumeration.ofProperty symbols property).constants.map Prod.fst =
        Go.constantNames (symbols.enumName property) property.options :=
      List.map_fst_zip (by rw [Go.constant_names_length])
    rw [declared_in_go_enumeration _ word, names]
    · rfl
    · intro constant member
      apply Go.constant_names_are_words word property.options
      rw [← names]
      exact List.mem_map_of_mem member
  cases target : generator.target with
  | typeScript =>
      rw [enumBlock, target]
      exact declared_in_enumeration_declaration word _
  | goStruct | goRecord =>
      rw [enumBlock, target]
      exact constants

theorem declared_in_collection_blocks (generator : Generator) (model : Model) :
    ((generator.collectionBlocks symbols model).flatMap declaredIn).Perm
      (renderedGroup generator.target symbols model) := by
  have word : IsWord (symbols.typeName model.name) := worded.types model.name
  have expandWord : IsWord (symbols.expandName model.name) :=
    is_word_append word (literal_is_word (by decide))
  cases target : generator.target with
  | typeScript =>
      simp only [collectionBlocks, target, renderedGroup, List.flatMap_cons,
        declared_in_interface word]
      split
      · simp [TypeScript.expandDeclaration, declared_in_interface expandWord]
      · simp
  | goStruct =>
      have main : declaredIn (Go.Struct.ofModel generator.style symbols model).write =
          [symbols.typeName model.name] := declared_in_struct _ word
      have expansion : declaredIn (Go.Struct.expansionOf symbols model).write =
          [symbols.expandName model.name] := declared_in_struct _ expandWord
      simp only [collectionBlocks, target, renderedGroup, List.flatMap_cons, main]
      split
      · simp [expansion]
      · simp
  | goRecord =>
      have methods : ((Go.Record.methods symbols model).map
          (·.write (symbols.typeName model.name))).flatMap declaredIn = [] := by
        simp [List.flatMap_map, declared_in_method]
      simp only [collectionBlocks, target, renderedGroup, List.flatMap_cons, List.flatMap_append,
        declared_in_collection_constant word, declared_in_record_type word, methods,
        declared_in_function_blocks word]
      exact List.Perm.swap _ _ _

/-- What the text of one model declares: the groups of its enumerations, and its own. -/
theorem declared_in_outline (generator : Generator) (model : Model) :
    ((generator.outline symbols model).flatMap fun entry => declaredIn entry.2).Perm
      ((model.distinctEnums.flatMap fun property =>
          (Claimant.enumeration property).group generator.target symbols) ++
        renderedGroup generator.target symbols model) := by
  have enums : (model.distinctEnums.map fun property =>
      (Claimant.enumeration property, generator.enumBlock symbols property)).flatMap
        (fun entry => declaredIn entry.2) = model.distinctEnums.flatMap fun property =>
          (Claimant.enumeration property).group generator.target symbols := by
    simp only [List.flatMap_map, declared_in_enum_block worded]
  rw [outline, List.flatMap_append, enums, List.flatMap_map]
  exact (declared_in_collection_blocks worded generator model).append_left _

/-- A block declares only names of its claimant's group. -/
theorem declared_names_in_group (generator : Generator) (model : Model) :
    ∀ entry ∈ generator.outline symbols model, ∀ name ∈ declaredIn entry.2,
      name ∈ entry.1.group generator.target symbols := by
  intro entry member name declared
  rcases List.mem_append.mp member with enumeration | collection
  · obtain ⟨property, _, rfl⟩ := List.mem_map.mp enumeration
    rwa [declared_in_enum_block worded] at declared
  · obtain ⟨block, blockMember, rfl⟩ := List.mem_map.mp collection
    have read := List.mem_flatMap.mpr ⟨block, blockMember, declared⟩
    have rendered := (declared_in_collection_blocks worded generator model).subset read
    exact (rendered_group_sublist _ _ _).subset rendered

end Worded

theorem file_outline_members {generator : Generator} {models : List Model}
    {entry : Claimant × String} (member : entry ∈ generator.fileOutline models) :
    ∃ model ∈ models,
      entry ∈ generator.outline (Symbols.ofModels models generator.target) model :=
  List.mem_flatMap.mp member

theorem outline_claimant {generator : Generator} {symbols : Symbols} {models : List Model}
    {model : Model} (modelMember : model ∈ models) {entry : Claimant × String}
    (member : entry ∈ generator.outline symbols model) : entry.1 ∈ Claimant.ofModels models := by
  rcases List.mem_append.mp member with enumeration | collection
  · obtain ⟨property, propertyMember, rfl⟩ := List.mem_map.mp enumeration
    exact Claimant.enumeration_mem_of_models.mpr ⟨model, modelMember, propertyMember⟩
  · obtain ⟨block, _, rfl⟩ := List.mem_map.mp collection
    exact Claimant.collection_mem_of_models.mpr ⟨model, modelMember, rfl⟩

/-- Everything that an output declares, against everything that its claimants were given. -/
theorem declared_names_subperm (generator : Generator) (models : List Model) :
    ((generator.fileOutline models).flatMap fun entry => declaredIn entry.2).Subperm
      ((Claimant.ofModels models).flatMap fun claimant =>
        claimant.group generator.target (Symbols.ofModels models generator.target)) := by
  have worded := Symbols.of_models_worded models generator.target
  unfold fileOutline
  generalize Symbols.ofModels models generator.target = symbols at worded
  let enumGroups := fun model : Model => model.distinctEnums.flatMap fun property =>
    (Claimant.enumeration property).group generator.target symbols
  have outlined : ((models.flatMap (generator.outline symbols)).flatMap fun entry =>
      declaredIn entry.2).Perm
        (models.flatMap (renderedGroup generator.target symbols) ++
          models.flatMap enumGroups) := by
    rw [List.flatMap_assoc]
    have perModel : (models.flatMap fun model =>
        (generator.outline symbols model).flatMap fun entry => declaredIn entry.2).Perm
          (models.flatMap fun model =>
            enumGroups model ++ renderedGroup generator.target symbols model) :=
      List.Perm.flatMap_left models fun model _ => declared_in_outline worded generator model
    have separated := (List.flatMap_append_perm models enumGroups
      (renderedGroup generator.target symbols)).symm
    exact (perModel.trans separated).trans List.perm_append_comm
  have claimed : (Claimant.ofModels models).flatMap
      (fun claimant => claimant.group generator.target symbols) =
        (models.flatMap fun model =>
          (Claimant.collection model.name).group generator.target symbols) ++
        models.flatMap enumGroups := by
    simp only [Claimant.ofModels, List.flatMap_append, List.flatMap_map, List.flatMap_assoc,
      enumGroups]
  rw [claimed]
  apply outlined.subperm.trans
  apply List.Sublist.subperm
  exact (List.Sublist.flatMap_right models fun model _ =>
    rendered_group_sublist generator.target symbols model).append (List.Sublist.refl _)

/-- The text of an output is made of blocks, the names that these declare are pairwise distinct, and
each of them is in the group of its own claimant. The namespace has taken these groups and nothing
else, each name once, so that groups neither repeat a name nor meet. -/
theorem top_level_names_distinct (generator : Generator) (models : List Model)
    (distinct : (models.map (·.name)).Nodup)
    (owned : ∀ model ∈ models, ∀ property ∈ model.properties, property.owner = model.name) :
    (models ≠ [] → generator.generate models = joinBlocks ((generator.header? models).toList ++
        (generator.fileOutline models).map Prod.snd) ++ "\n") ∧
      ((generator.fileOutline models).flatMap fun entry => declaredIn entry.2).Nodup ∧
      (∀ entry ∈ generator.fileOutline models, entry.1 ∈ Claimant.ofModels models ∧
        ∀ name ∈ declaredIn entry.2,
          name ∈ entry.1.group generator.target (Symbols.ofModels models generator.target)) ∧
      (Allocation.ofModels models generator.target).space.taken.Perm
        ((Claimant.ofModels models).flatMap fun claimant =>
          claimant.group generator.target (Symbols.ofModels models generator.target)) ∧
      (Allocation.ofModels models generator.target).space.taken.Nodup := by
  obtain ⟨taken, apart⟩ := Symbols.claimed_names distinct owned generator.target
  refine ⟨generate_eq_outline generator, ?_, ?_, taken, apart⟩
  · have claimed := taken.nodup_iff.mp apart
    obtain ⟨names, order, sublist⟩ := declared_names_subperm generator models
    exact order.nodup_iff.mp (claimed.sublist sublist)
  · intro entry member
    obtain ⟨model, modelMember, outlined⟩ := file_outline_members member
    have worded := Symbols.of_models_worded models generator.target
    exact ⟨outline_claimant modelMember outlined,
      declared_names_in_group worded generator model entry outlined⟩

/-- A wrapper's constructor and a collection want one name, and so do a constant and a type. -/
def meetingModels : List Model := [
    ⟨{ name := "new_posts" }, []⟩,
    ⟨{ name := "posts" },
      [{ name := "state", owner := "posts", kind := .enumeration, data := .options ["a", "A"] }]⟩,
    ⟨{ name := "posts_state_options_a" }, []⟩
  ]

theorem top_level_names_distinct_meeting :
    (meetingModels.map (·.name)).Nodup ∧
      (∀ model ∈ meetingModels, ∀ property ∈ model.properties, property.owner = model.name) ∧
      (((forTarget .goRecord).fileOutline meetingModels).flatMap fun entry =>
        declaredIn entry.2).Nodup :=
  ⟨by decide, by decide,
    (top_level_names_distinct (forTarget .goRecord) meetingModels (by decide) (by decide)).2.1⟩

end CollectionTypes.Generator
