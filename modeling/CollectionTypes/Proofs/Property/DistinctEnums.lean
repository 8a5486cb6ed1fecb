import CollectionTypes.Property.Basic
import Mathlib.Data.List.Nodup

/-!
The enumerations of a model: one for each field name, the first in order. The same recursion would
pick the first property of each name in any list; only enumerations are asked for.
-/

namespace CollectionTypes.Model

theorem first_of_name_sublist (seen : List String) (properties : List Property) :
    (firstOfName seen properties).Sublist properties := by
  induction properties generalizing seen with
  | nil => exact List.Sublist.refl _
  | cons property rest induction =>
      rw [firstOfName]
      split
      · exact (induction seen).cons property
      · exact (induction _).cons_cons property

theorem first_of_name_distinct (seen : List String) (properties : List Property) :
    ((firstOfName seen properties).map (·.name)).Nodup ∧
      ∀ property ∈ firstOfName seen properties, property.name ∉ seen := by
  induction properties generalizing seen with
  | nil => simp [firstOfName]
  | cons property rest induction =>
      rw [firstOfName]
      split
      · exact induction seen
      · rename_i unseen
        obtain ⟨distinct, apart⟩ := induction (property.name :: seen)
        rw [List.map_cons, List.nodup_cons, List.forall_mem_cons]
        refine ⟨⟨?_, distinct⟩, by simpa using unseen, ?_⟩
        · intro repeated
          obtain ⟨other, member, same⟩ := List.mem_map.mp repeated
          exact apart other member (same ▸ List.mem_cons_self ..)
        · intro other member earlier
          exact apart other member (List.mem_cons_of_mem _ earlier)

theorem first_of_name_covers (seen : List String) (properties : List Property) :
    ∀ property ∈ properties, property.name ∉ seen →
      ∃ first ∈ firstOfName seen properties, first.name = property.name := by
  induction properties generalizing seen with
  | nil => simp
  | cons head rest induction =>
      intro property member unseen
      rw [firstOfName]
      split
      · rename_i headSeen
        rcases List.mem_cons.mp member with rfl | later
        · exact absurd (by simpa using headSeen) unseen
        · exact induction seen property later unseen
      · by_cases same : head.name = property.name
        · exact ⟨head, by simp, same⟩
        · rcases List.mem_cons.mp member with rfl | later
          · exact absurd rfl same
          · obtain ⟨first, firstMember, named⟩ := induction (head.name :: seen) property later
              (by simp [Ne.symm same, unseen])
            exact ⟨first, List.mem_cons_of_mem _ firstMember, named⟩

theorem distinct_enums_mem {model : Model} {property : Property}
    (member : property ∈ model.distinctEnums) :
    property ∈ model.properties ∧ property.isEnumeration = true :=
  List.mem_filter.mp ((first_of_name_sublist _ _).subset member)

theorem distinct_enums_names_nodup (model : Model) :
    (model.distinctEnums.map (·.name)).Nodup :=
  (first_of_name_distinct _ _).1

theorem distinct_enums_cover {model : Model} {property : Property}
    (member : property ∈ model.properties) (enumeration : property.isEnumeration = true) :
    ∃ first ∈ model.distinctEnums, first.name = property.name :=
  first_of_name_covers [] _ property (List.mem_filter.mpr ⟨member, enumeration⟩) (by simp)

end CollectionTypes.Model
