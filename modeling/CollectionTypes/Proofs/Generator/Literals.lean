import CollectionTypes.Proofs.Go.Literals
import CollectionTypes.Proofs.TypeScript.Literals

/-!
No name and no option gets out of the literal that it was put into. A literal is read back whole and
ends where it was written to end; in what is generated, names of collections, names of fields and
options change nothing but what literals hold, apart from the names that are made of them. Tags of
struct fields hold names as they are, outside of any string literal, and are no part of this.
-/

namespace CollectionTypes.Generator

open Text Quoted

/-- Declarations of a model with the texts that their literals hold; the code around these is that
of the same declarations with empty texts. -/
structure TextsEnclosed (style : Style) (symbols : Symbols) (model : Model) : Prop where
  collection : Dissects
    (Go.Record.collectionConstantBlock (symbols.typeName model.name) model.name)
    (Go.Record.collectionConstantBlock (symbols.typeName model.name) "") [model.name]
  methods : ∀ method ∈ Go.Record.methods symbols model,
    (∃ property ∈ model.properties, property.name = method.field) ∧
      Dissects (method.write (symbols.typeName model.name))
        ((method.onField "").write (symbols.typeName model.name))
        (List.replicate method.mentions method.field)
  constants : ∀ property,
    Dissects (Go.Enumeration.ofProperty symbols property).write
      (Go.Enumeration.ofProperty symbols property).emptied.write property.options
  members : ∀ property, (TypeScript.enumDeclaration symbols property).literals = property.options
  declarations : ∀ declaration ∈ TypeScript.declarations style symbols model,
    Dissects declaration.write declaration.emptied.write declaration.literals

theorem texts_enclosed {symbols : Symbols} (worded : symbols.Worded) (style : Style)
    (model : Model) : TextsEnclosed style symbols model where
  collection := Go.Record.dissects_collection_constant (worded.types model.name) model.name
  methods := fun _ member => Go.Record.dissects_method worded member
  constants := Go.Enumeration.dissects_of_property worded
  members := fun _ => List.map_snd_zip (unique_names_length _ _).ge
  declarations := TypeScript.dissects_declarations worded style model

/-- Literals are read back, distinct texts have distinct literals, and whatever the models are, no
text gets out of its literal. -/
theorem literals_keep_texts :
    (∀ value, Enclosed value) ∧ Function.Injective literal ∧
      ∀ models target style model,
        TextsEnclosed style (Symbols.ofModels models target) model :=
  ⟨enclosed, literal_injective, fun models target style model =>
    texts_enclosed (Symbols.of_models_worded models target) style model⟩

/-- A text that tries to close its literal and to end with an escape of its own. -/
example : readLiteral ((literal "a\" = \\").toList ++ "\"; b\n".toList) =
    some ("a\" = \\".toList, "\"; b\n".toList) := by
  decide

end CollectionTypes.Generator
