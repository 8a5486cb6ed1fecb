import CollectionTypes.Go.Struct
import CollectionTypes.Proofs.Go.Vocabulary

/-!
What the type of a field in Go names: one word at its end, of the vocabulary or among the names that
the symbols give for the property. Fields that meet get other names, never other types.
-/

namespace CollectionTypes.Go

theorem leaf_of_type_of (style : Style) (symbols : Symbols) (property : Property) :
    (typeOf style symbols property).leaf? = (elementType style symbols property).leaf? := by
  simp only [typeOf]
  split
  · split <;> rfl
  · split <;> rfl

theorem resolved_type_names (symbols : Symbols) {property : Property}
    (relation : property.isRelation = true) :
    ∀ name ∈ (resolvedType symbols property).leaf?,
      name ∈ symbols.referenced .goStruct property := by
  have kind : property.kind = .relation := eq_of_beq relation
  intro name member
  unfold resolvedType at member
  split at member
  · rename_i collection target
    have same : symbols.typeName collection = name := Option.some.inj member
    simp [Symbols.referenced, kind, target, same]
  · contradiction

theorem leaf_of_expand_type (symbols : Symbols) (property : Property) :
    (expandType symbols property).leaf? = (resolvedType symbols property).leaf? := by
  simp only [expandType]
  split <;> rfl

theorem element_type_names (style : Style) (symbols : Symbols) (property : Property) :
    ∀ name ∈ (elementType style symbols property).leaf?,
      name ∈ vocabulary ∨ name ∈ symbols.referenced .goStruct property := by
  intro name member
  unfold elementType at member
  cases kind : property.kind with
  | enumeration =>
      rw [kind] at member
      have same : symbols.enumName property = name := Option.some.inj member
      right
      simp [Symbols.referenced, kind, same]
  | relation =>
      simp only [kind] at member
      split at member
      · left
        rw [← Option.some.inj member]
        decide
      · right
        exact resolved_type_names symbols (by simp [Property.isRelation, kind]) name member
  | json =>
      rw [kind] at member
      contradiction
  | text | file | date | number | boolean =>
      rw [kind] at member
      left
      rw [← Option.some.inj member]
      decide

namespace Struct

/-- Fields are told apart by their names alone: nothing else about them changes. -/
theorem distinguish_view {β : Type} (view : StructField → β)
    (blind : ∀ field name, view { field with name := name } = view field)
    (fields : List StructField) : (distinguish fields).map view = fields.map view := by
  have length : (({} : Namespace).claimAll (fields.map (·.name))).1.length = fields.length := by
    rw [Namespace.claim_all_length, List.length_map]
  simp only [distinguish]
  generalize (({} : Namespace).claimAll (fields.map (·.name))).1 = names at length
  induction fields generalizing names with
  | nil => simp
  | cons field fields induction =>
      cases names with
      | nil => contradiction
      | cons name names =>
          rw [List.zipWith_cons_cons, List.map_cons, List.map_cons, blind,
            induction names (Nat.succ.inj length)]

theorem distinguish_types (fields : List StructField) :
    (distinguish fields).map (·.type) = fields.map (·.type) :=
  distinguish_view (·.type) (fun _ _ => rfl) fields

end Struct

end CollectionTypes.Go
