import CollectionTypes.Proofs.Go.Methods
import CollectionTypes.Proofs.Text.Pieces

/-!
The field of a record type beside its methods. A record type has one field, the record that it
embeds, and a type with a method of that name is refused. Only the getter of a field whose exported
name is that of the embedded record can have it: no suffix leads to it, and neither do the names
that are made from a getter's. What the embedded record has by way of fields of its own is no part
of this.
-/

namespace CollectionTypes.Namespace

/-- A stem that is free is claimed as it is. -/
theorem claim_of_free {space : Namespace} {stem : String} (free : stem ∉ space.taken) :
    (space.claim stem).1 = stem := by
  have first : FirstFree space stem (fun name => [name]) 1 := by
    refine ⟨le_refl 1, ?_, fun earlier positive before => absurd before (by omega)⟩
    rw [is_free_iff]
    intro name member
    rw [List.mem_singleton.mp member]
    exact free
  exact congrArg Prod.fst (claim_group_of_first_free traceable_single first)

/-- A suffix ends with a digit. -/
theorem stem_of_candidate {stem name : String} {suffix : Nat}
    (same : candidate stem suffix = name)
    (plain : name.toList.getLast?.any Text.Decimal.isDigit = false) : stem = name := by
  unfold candidate at same
  split at same
  · exact same
  · have letters : name.toList = stem.toList ++ Text.Decimal.digits suffix := by
      rw [← same, String.toList_append, Text.Decimal.write, String.toList_ofList]
    have filled := Text.Decimal.digits_ne_nil suffix
    have digit := Text.Decimal.digits_are_digits suffix _ (List.getLast_mem filled)
    have last : name.toList.getLast? = some ((Text.Decimal.digits suffix).getLast filled) := by
      rw [letters, List.getLast?_append_of_ne_nil _ filled,
        List.getLast?_eq_getLast_of_ne_nil filled]
    rw [last, Option.any_some, digit] at plain
    contradiction

end CollectionTypes.Namespace

namespace CollectionTypes.Go.Record

open Naming

/-- The name of the field that a line of a struct makes: the first word of the line, and of an
embedded type what follows its package. -/
def fieldOfLine (line : String) : String :=
  let word := (line.toList.dropWhile (· = '\t')).takeWhile (· ≠ ' ')
  String.ofList (word.reverse.takeWhile isWordLetter).reverse

def fieldNames (struct : String) : List String :=
  (Text.split '\n' struct).tail.dropLast.map fieldOfLine

def embeddedField : String := "BaseRecordProxy"

theorem field_names_of_type_block {name : String} (word : IsWord name) :
    fieldNames (typeBlock name) = [embeddedField] := by
  have head : '\n' ∉ ("type " ++ name ++ " struct \x7b").toList := by
    simp only [String.toList_append, List.mem_append, not_or]
    exact ⟨⟨by decide, word_on_line word⟩, by decide⟩
  have lines : typeBlock name = ("type " ++ name ++ " struct \x7b") ++ ("\n" ++
      (String.join (["\tcore.BaseRecordProxy"].map fun line => line ++ "\n") ++ "\x7d")) := by
    simp [typeBlock, String.append_assoc]
  have only : ["\tcore.BaseRecordProxy"].map fieldOfLine = [embeddedField] := by decide
  rw [fieldNames, lines, Text.split_block head (by decide) "\x7d" (by decide)]
  exact only

def furtherStems (getter : String) : List String :=
  [getter ++ "Int", "Set" ++ getter, "Expand" ++ getter]

theorem claim_if_candidate {wanted : Bool} {space : Namespace} {stem name : String}
    (claimed : (claimIf wanted space stem).1 = some name) :
    ∃ suffix, name = Namespace.candidate stem suffix := by
  cases wanted with
  | false => exact absurd claimed (by simp [claimIf])
  | true =>
      obtain ⟨suffix, _, found⟩ := Namespace.claim_spec space stem
      have same : (space.claim stem).1 = name := Option.some.inj claimed
      exact ⟨suffix, by rw [← same, found]⟩

/-- A method is a getter or has a name that is made from that of the getter. -/
theorem method_names_of_field {symbols : Symbols} {space : Namespace} {property : Property}
    {method : Method} (member : method ∈ (methodsOf symbols space property).1) :
    method.name = (space.claim (exportedName property.name)).1 ∨
      ∃ stem ∈ furtherStems (space.claim (exportedName property.name)).1, ∃ suffix,
        method.name = Namespace.candidate stem suffix := by
  simp only [methodsOf, List.mem_append, List.mem_singleton, Option.mem_toList,
    Option.map_eq_some_iff] at member
  rcases member with ((rfl | ⟨name, found, rfl⟩) | ⟨name, found, rfl⟩) | ⟨name, found, rfl⟩
  · exact Or.inl rfl
  all_goals exact Or.inr ⟨_, by simp [furtherStems], claim_if_candidate found⟩

theorem stem_of_embedded {stem : String} {suffix : Nat}
    (same : Namespace.candidate stem suffix = embeddedField) : stem = embeddedField :=
  Namespace.stem_of_candidate same (by decide)

theorem further_not_embedded {getter stem : String} (further : stem ∈ furtherStems getter)
    (suffix : Nat) : Namespace.candidate stem suffix ≠ embeddedField := by
  intro same
  have letters := congrArg String.toList (stem_of_embedded same)
  simp only [furtherStems, List.mem_cons, List.not_mem_nil, or_false] at further
  rcases further with rfl | rfl | rfl
  · have last := congrArg List.getLast? letters
    rw [String.toList_append, List.getLast?_append_of_ne_nil _ (by decide)] at last
    exact absurd last (by decide)
  · have first := congrArg List.head? letters
    rw [String.toList_append, List.head?_append_of_ne_nil _ (by decide)] at first
    exact absurd first (by decide)
  · have first := congrArg List.head? letters
    rw [String.toList_append, List.head?_append_of_ne_nil _ (by decide)] at first
    exact absurd first (by decide)

/-- The exported name of a field is taken once the field has its methods. -/
theorem exported_name_taken (symbols : Symbols) (space : Namespace) {properties : List Property}
    {property : Property} (member : property ∈ properties) :
    exportedName property.name ∈ (allMethods symbols space properties).map (·.name) ∨
      exportedName property.name ∈ space.taken := by
  induction properties generalizing space with
  | nil => contradiction
  | cons first properties induction =>
      rw [allMethods, List.map_append, List.mem_append]
      rcases List.mem_cons.mp member with rfl | later
      · by_cases taken : exportedName property.name ∈ space.taken
        · exact Or.inr taken
        · have getter : (space.claim (exportedName property.name)).1 ∈
              (methodsOf symbols space property).1.map (·.name) := by
            simp [methodsOf, Method.name]
          rw [Namespace.claim_of_free taken] at getter
          exact Or.inl (Or.inl getter)
      · rcases induction (methodsOf symbols space first).2 later with named | taken
        · exact Or.inl (Or.inr named)
        · have handedOut := methods_of_handed_out symbols space first
          exact ((handedOut.taken _).mp taken).imp_left Or.inl

/-- A record type has one field, the record that it embeds, and a method has the name of that field
exactly if the exported name of a property is that name. -/
theorem method_named_as_field_iff (models : List Model) (target : Target) (model : Model) :
    let symbols := Symbols.ofModels models target
    let fields := fieldNames (typeBlock (symbols.typeName model.name))
    fields = [embeddedField] ∧
      ((∃ method ∈ methods symbols model, method.name ∈ fields) ↔
        ∃ property ∈ model.properties, exportedName property.name = embeddedField) := by
  intro symbols fields
  have worded := Symbols.of_models_worded models target
  have only : fields = [embeddedField] := field_names_of_type_block (worded.types model.name)
  refine ⟨only, ?_⟩
  simp only [only, List.mem_singleton]
  constructor
  · rintro ⟨method, member, named⟩
    obtain ⟨property, inModel, before, own⟩ := mem_all_methods member
    refine ⟨property, inModel, ?_⟩
    rcases method_names_of_field own with getter | ⟨stem, further, suffix, made⟩
    · obtain ⟨suffix, _, claimed⟩ := Namespace.claim_spec before (exportedName property.name)
      have embedded : Namespace.candidate (exportedName property.name) suffix = embeddedField := by
        rw [← named, getter, claimed]
      exact stem_of_embedded embedded
    · exact absurd (made.symm.trans named) (further_not_embedded further suffix)
  · rintro ⟨property, inModel, exported⟩
    have free : embeddedField ∉ proxyMembers := by decide
    rcases exported_name_taken symbols ⟨proxyMembers⟩ inModel with named | taken
    · obtain ⟨method, member, same⟩ := List.mem_map.mp named
      exact ⟨method, member, same.trans exported⟩
    · rw [exported] at taken
      exact absurd taken free

def embeddingModel : Model :=
  ⟨{ name := "posts" }, [
    { name := "base_record_proxy", owner := "posts", kind := .text, data := .plain }]⟩

/-- The getter of that field and the embedded record have one name in one type. -/
theorem getter_named_as_field :
    let symbols := Symbols.ofModels [embeddingModel] .goRecord
    ∃ method ∈ methods symbols embeddingModel,
      method.name ∈ fieldNames (typeBlock (symbols.typeName embeddingModel.name)) := by
  decide +kernel

end CollectionTypes.Go.Record
