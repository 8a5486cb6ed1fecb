import CollectionTypes.Generator.Symbols
import CollectionTypes.Proofs.Naming.Word
import Mathlib.Data.List.Perm.Subperm

/-!
How the names of one output are allotted. Collections and enumerations are claimants of one kind: a
step either finds the key of its claimant known and changes nothing, or takes a free group of names
for it. What holds after any number of steps is `Allocation.Sound`. A claimant is an enumeration by
its owner and field name alone, so that nothing is said of a second enumeration with both the same.
-/

namespace CollectionTypes

open Naming

/-- What declares a group of names: a collection, or the enumeration of a property. -/
inductive Claimant where
  | collection (name : String)
  | enumeration (property : Property)
deriving DecidableEq

namespace Claimant

def key : Claimant → String ⊕ (String × String)
  | .collection name => .inl name
  | .enumeration property => .inr (Symbols.enumKey property)

def stem : Claimant → String
  | .collection name => Go.exportedName name
  | .enumeration property => Symbols.enumStem property

def declares (target : Target) : Claimant → String → List String
  | .collection _ => target.collectionDeclarations
  | .enumeration property => target.enumDeclarations property.options

def name? (symbols : Symbols) : Claimant → Option String
  | .collection name => symbols.typeName? name
  | .enumeration property => symbols.enumName? property

def name (symbols : Symbols) (claimant : Claimant) : String :=
  (claimant.name? symbols).getD claimant.stem

def group (target : Target) (symbols : Symbols) (claimant : Claimant) : List String :=
  claimant.declares target (claimant.name symbols)

theorem stem_is_word (claimant : Claimant) : IsWord claimant.stem := by
  cases claimant with
  | collection name => exact Go.exported_name_is_word name
  | enumeration property => exact Go.exported_name_is_word property.enumTypeName

theorem name_of_key {symbols : Symbols} {left right : Claimant} (same : left.key = right.key) :
    left.name? symbols = right.name? symbols := by
  cases left with
  | collection name =>
      cases right with
      | collection other => rw [Sum.inl.inj same]
      | enumeration property => exact absurd same (by simp [key])
  | enumeration property =>
      cases right with
      | collection name => exact absurd same (by simp [key])
      | enumeration other =>
          have keys : Symbols.enumKey property = Symbols.enumKey other := Sum.inr.inj same
          simp only [name?, Symbols.enumName?, keys]

/-- The stem depends on the key alone. -/
theorem stem_of_key {left right : Claimant} (same : left.key = right.key) :
    left.stem = right.stem := by
  cases left with
  | collection name =>
      cases right with
      | collection other => rw [Sum.inl.inj same]
      | enumeration property => exact absurd same (by simp [key])
  | enumeration property =>
      cases right with
      | collection name => exact absurd same (by simp [key])
      | enumeration other =>
          obtain ⟨owner, name⟩ := Prod.mk.inj (Sum.inr.inj same)
          simp only [stem, Symbols.enumStem, Property.enumTypeName, owner, name]

theorem declares_traceable (target : Target) (claimant : Claimant) :
    Namespace.Traceable (claimant.declares target) := by
  have lead (text : String) : Function.Injective fun name => text ++ name := by
    intro left right same
    simpa using same
  have tail (text : String) : Function.Injective fun name => name ++ text := by
    intro left right same
    simpa using same
  have both (front back : String) : Function.Injective fun name => front ++ name ++ back := by
    intro left right same
    simpa using same
  cases claimant with
  | collection _ =>
      cases target with
      | typeScript | goStruct =>
          refine ⟨[id, Target.expandName], ?_, fun stem => rfl⟩
          simp only [List.forall_mem_cons]
          exact ⟨Function.injective_id, tail _, by simp⟩
      | goRecord =>
          refine ⟨[id, Target.collectionConstant, Target.wrapName, Target.newName,
            Target.findByIdName, Target.findFirstName, Target.findByFilterName], ?_,
            fun stem => rfl⟩
          simp only [List.forall_mem_cons]
          exact ⟨Function.injective_id, tail _, lead _, lead _, both _ _, both _ _, both _ _,
            by simp⟩
  | enumeration property =>
      have constants : Namespace.Traceable fun typeName =>
          typeName :: Go.constantNames typeName property.options := by
        refine ⟨id :: (uniqueNames Go.exportedName property.options).map
          fun own typeName => typeName ++ own, ?_, ?_⟩
        · simp only [List.forall_mem_cons, List.forall_mem_map]
          exact ⟨Function.injective_id, fun own _ => tail own⟩
        · intro stem
          simp [Go.constant_names_eq, Function.comp_def]
      cases target with
      | typeScript => exact Namespace.traceable_single
      | goStruct | goRecord => exact constants

theorem declarations_are_words {name : String} (word : IsWord name) (target : Target) :
    ∀ declared ∈ target.collectionDeclarations name, IsWord declared := by
  have find : IsWord ("Find" ++ name) := is_word_append (literal_is_word (by decide)) word
  have findFirst : IsWord ("FindFirst" ++ name) :=
    is_word_append (literal_is_word (by decide)) word
  cases target with
  | typeScript | goStruct =>
      simp only [Target.collectionDeclarations, List.forall_mem_cons]
      exact ⟨word, is_word_append word (literal_is_word (by decide)), by simp⟩
  | goRecord =>
      simp only [Target.collectionDeclarations, List.forall_mem_cons]
      exact ⟨word, is_word_append word (literal_is_word (by decide)),
        is_word_append (literal_is_word (by decide)) word,
        is_word_append (literal_is_word (by decide)) word,
        is_word_append find (literal_is_word (by decide)),
        is_word_append findFirst (literal_is_word (by decide)),
        is_word_append find (literal_is_word (by decide)), by simp⟩

def extraLengths : Target → List Nat
  | .typeScript | .goStruct => [0, 6]
  | .goRecord => [0, 14, 4, 3, 8, 15, 12]

theorem collection_declaration_lengths (target : Target) (name : String) :
    (target.collectionDeclarations name).map String.length =
      (extraLengths target).map fun extra => name.length + extra := by
  cases target with
  | typeScript | goStruct =>
      have expand : "Expand".length = 6 := rfl
      simp [Target.collectionDeclarations, Target.expandName, extraLengths, expand]
  | goRecord =>
      have constant : "CollectionName".length = 14 := rfl
      have wrap : "Wrap".length = 4 := rfl
      have new : "New".length = 3 := rfl
      have find : "Find".length = 4 := rfl
      have first : "FindFirst".length = 9 := rfl
      have byId : "ById".length = 4 := rfl
      have byData : "ByData".length = 6 := rfl
      have byFilter : "ByFilter".length = 8 := rfl
      simp [Target.collectionDeclarations, Target.collectionConstant, Target.wrapName,
        Target.newName, Target.findByIdName, Target.findFirstName, Target.findByFilterName,
        extraLengths, constant, wrap, new, find, first, byId, byData, byFilter]
      omega

/-- The names of one group differ, whatever the claimant is called. -/
theorem declares_nodup (target : Target) (claimant : Claimant) (name : String) :
    (claimant.declares target name).Nodup := by
  cases claimant with
  | collection _ =>
      apply List.Nodup.of_map String.length
      rw [declares, collection_declaration_lengths]
      apply List.Nodup.map
      · intro left right same
        exact Nat.add_left_cancel same
      · cases target <;> decide
  | enumeration property =>
      have constants : (name :: Go.constantNames name property.options).Nodup :=
        List.nodup_cons.mpr ⟨Go.type_name_not_constant _ _, Go.constant_names_nodup _ _⟩
      cases target with
      | typeScript => exact List.nodup_singleton name
      | goStruct | goRecord => exact constants

end Claimant

namespace Allocation

def add (target : Target) (allocation : Allocation) : Claimant → Allocation
  | .collection name => allocation.addCollection target name
  | .enumeration property => allocation.addEnum target property

/-- The step in one form for both kinds of claimant. -/
structure Added (target : Target) (before : Allocation) (claimant : Claimant)
    (after : Allocation) : Prop where
  space : after.space =
    (before.space.claimGroup claimant.stem (claimant.declares target)).2
  named : claimant.name? after.symbols =
    some (before.space.claimGroup claimant.stem (claimant.declares target)).1
  others : ∀ other : Claimant, other.key ≠ claimant.key →
    other.name? after.symbols = other.name? before.symbols

variable {Key Value : Type} [BEq Key] [LawfulBEq Key]

theorem lookup_append_same {entries : List (Key × Value)} {key : Key} {value : Value}
    (missing : entries.lookup key = none) :
    (entries ++ [(key, value)]).lookup key = some value := by
  rw [List.lookup_append, missing, List.lookup_cons_self, Option.none_or]

theorem lookup_append_other {entries : List (Key × Value)} {key other : Key} {value : Value}
    (apart : other ≠ key) :
    (entries ++ [(key, value)]).lookup other = entries.lookup other := by
  have different : (other == key) = false := beq_false_of_ne apart
  rw [List.lookup_append, List.lookup_cons, different]
  simp

theorem add_known {target : Target} {allocation : Allocation} {claimant : Claimant}
    {name : String} (known : claimant.name? allocation.symbols = some name) :
    allocation.add target claimant = allocation := by
  cases claimant with
  | collection collection =>
      have found : allocation.symbols.typeName? collection = some name := known
      simp [add, addCollection, found]
  | enumeration property =>
      have found : allocation.symbols.enumName? property = some name := known
      simp [add, addEnum, found]

theorem add_unknown (target : Target) {allocation : Allocation} {claimant : Claimant}
    (unknown : claimant.name? allocation.symbols = none) :
    Added target allocation claimant (allocation.add target claimant) := by
  cases claimant with
  | collection collection =>
      have missing : allocation.symbols.typeName? collection = none := unknown
      have added : allocation.add target (.collection collection) =
          allocation.addCollection target collection := rfl
      rw [addCollection, missing] at added
      refine ⟨by rw [added]; rfl, ?_, ?_⟩
      · rw [added]
        exact lookup_append_same missing
      · intro other different
        rw [added]
        cases other with
        | collection name =>
            have apart : name ≠ collection := by
              rintro rfl
              exact different rfl
            exact lookup_append_other apart
        | enumeration property => rfl
  | enumeration property =>
      have missing : allocation.symbols.enumName? property = none := unknown
      have added : allocation.add target (.enumeration property) =
          allocation.addEnum target property := rfl
      rw [addEnum, missing] at added
      refine ⟨by rw [added]; rfl, ?_, ?_⟩
      · rw [added]
        exact lookup_append_same missing
      · intro other different
        rw [added]
        cases other with
        | collection name => rfl
        | enumeration second =>
            have apart : Symbols.enumKey second ≠ Symbols.enumKey property := by
              intro same
              exact different (congrArg Sum.inr same)
            exact lookup_append_other apart

/-- What holds of an allotment after the steps of `claimed`, none of which was known before. -/
structure Sound (target : Target) (claimed : List Claimant) (allocation : Allocation) : Prop where
  known : ∀ claimant : Claimant, (claimant.name? allocation.symbols).isSome = true ↔
    ∃ earlier ∈ claimed, earlier.key = claimant.key
  taken : allocation.space.taken.Perm
    (claimed.flatMap fun claimant => claimant.group target allocation.symbols)
  distinct : allocation.space.taken.Nodup
  suffixed : ∀ claimant ∈ claimed, ∃ suffix, 1 ≤ suffix ∧
    claimant.name allocation.symbols = Namespace.candidate claimant.stem suffix

theorem sound_empty (target : Target) : Sound target [] {} := by
  refine ⟨?_, List.Perm.refl _, List.nodup_nil, by simp⟩
  intro claimant
  cases claimant <;> simp [Claimant.name?, Symbols.typeName?, Symbols.enumName?]

theorem group_of_others {target : Target} {before after : Allocation} {claimant other : Claimant}
    (added : Added target before claimant after) (different : other.key ≠ claimant.key) :
    other.name after.symbols = other.name before.symbols ∧
      other.group target after.symbols = other.group target before.symbols := by
  have same : other.name after.symbols = other.name before.symbols := by
    rw [Claimant.name, added.others other different, Claimant.name]
  exact ⟨same, by rw [Claimant.group, Claimant.group, same]⟩

/-- A new claimant gets a group that meets none of the earlier ones, which stay as they are. -/
theorem add_sound {target : Target} {claimed : List Claimant} {allocation : Allocation}
    (sound : Sound target claimed allocation) {claimant : Claimant}
    (unknown : claimant.name? allocation.symbols = none) :
    Sound target (claimed ++ [claimant]) (allocation.add target claimant) := by
  have added := add_unknown target unknown
  obtain ⟨suffix, first, claim⟩ := Namespace.claim_group_spec
    (claimant.declares_traceable target) allocation.space claimant.stem
  have own : claimant.name (allocation.add target claimant).symbols =
      Namespace.candidate claimant.stem suffix := by
    rw [Claimant.name, added.named, claim]
    rfl
  have space : (allocation.add target claimant).space.taken =
      claimant.group target (allocation.add target claimant).symbols ++
        allocation.space.taken := by
    rw [added.space, claim, Claimant.group, own]
    rfl
  have earlierKeys : ∀ earlier ∈ claimed, earlier.key ≠ claimant.key := by
    intro earlier member same
    have found := (sound.known claimant).mpr ⟨earlier, member, same⟩
    rw [unknown] at found
    contradiction
  refine ⟨?_, ?_, ?_, ?_⟩
  · intro other
    by_cases same : other.key = claimant.key
    · rw [Claimant.name_of_key same, added.named]
      simp [same]
    · rw [added.others other same, sound.known other]
      simp [Ne.symm same]
  · rw [space, List.flatMap_append, List.flatMap_singleton]
    have groups : (claimed.flatMap fun earlier =>
        earlier.group target (allocation.add target claimant).symbols) =
          claimed.flatMap fun earlier => earlier.group target allocation.symbols := by
      apply List.flatMap_congr
      intro earlier member
      exact (group_of_others added (earlierKeys earlier member)).2
    rw [groups]
    exact List.perm_append_comm.trans (sound.taken.append_right _)
  · rw [space]
    have free := (Namespace.is_free_iff allocation.space _).mp first.free
    have apart : List.Disjoint (claimant.group target (allocation.add target claimant).symbols)
        allocation.space.taken := by
      rw [Claimant.group, own]
      exact fun name member taken => free name member taken
    exact List.nodup_append'.mpr ⟨claimant.declares_nodup target _, sound.distinct, apart⟩
  · intro other member
    rcases List.mem_append.mp member with before | last
    · obtain ⟨earlierSuffix, positive, named⟩ := sound.suffixed other before
      exact ⟨earlierSuffix, positive,
        (group_of_others added (earlierKeys other before)).1.trans named⟩
    · rw [List.mem_singleton.mp last]
      exact ⟨suffix, first.positive, own⟩

/-- A whole run: the claimants that were not known when their turn came are exactly the first ones
with each key. -/
theorem run_sound (target : Target) (claimants : List Claimant) :
    ∃ claimed, Sound target claimed (claimants.foldl (add target) {}) ∧
      claimed.Sublist claimants ∧
      ∀ claimant ∈ claimants, ∃ earlier ∈ claimed, earlier.key = claimant.key := by
  induction claimants using List.reverseRecOn with
  | nil => exact ⟨[], sound_empty target, List.Sublist.refl _, by simp⟩
  | append_singleton claimants claimant induction =>
      obtain ⟨claimed, sound, sublist, covered⟩ := induction
      rw [List.foldl_append, List.foldl_cons, List.foldl_nil]
      generalize claimants.foldl (add target) {} = allocation at sound ⊢
      cases found : claimant.name? allocation.symbols with
      | some name =>
          rw [add_known found]
          have repeated := (sound.known claimant).mp (by rw [found]; rfl)
          refine ⟨claimed, sound, sublist.trans (List.sublist_append_left _ _), ?_⟩
          intro other member
          rcases List.mem_append.mp member with before | last
          · exact covered other before
          · rw [List.mem_singleton.mp last]
            exact repeated
      | none =>
          refine ⟨claimed ++ [claimant], add_sound sound found,
            sublist.append (List.Sublist.refl _), ?_⟩
          intro other member
          rcases List.mem_append.mp member with before | last
          · obtain ⟨earlier, earlierMember, same⟩ := covered other before
            exact ⟨earlier, List.mem_append_left _ earlierMember, same⟩
          · rw [List.mem_singleton.mp last]
            exact ⟨claimant, by simp, rfl⟩

end Allocation

end CollectionTypes
