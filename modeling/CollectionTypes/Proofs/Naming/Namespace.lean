import CollectionTypes.Naming.Namespace
import CollectionTypes.Proofs.Text.Decimal
import Mathlib.Data.Finset.Card
import Mathlib.Data.Finset.Prod
import Mathlib.Data.List.Nodup

/-!
What a namespace promises. A group whose declarations are one-to-one functions of the stem always
finds a suffix with which it is free, the smallest one is taken, and names handed out one by one
never repeat. Declarations that depend on the stem in any other way are not covered: the bound of
the search counts on each taken name blocking a declaration for one suffix only.
-/

namespace CollectionTypes.Namespace

theorem candidate_injective (stem : String) {left right : Nat} (leftPositive : 1 ≤ left)
    (rightPositive : 1 ≤ right) (same : candidate stem left = candidate stem right) :
    left = right := by
  unfold candidate at same
  split at same <;> split at same
  · omega
  · have empty : Text.Decimal.write right = "" := by simpa using same.symm
    exact absurd empty (Text.Decimal.write_ne_empty right)
  · have empty : Text.Decimal.write left = "" := by simpa using same
    exact absurd empty (Text.Decimal.write_ne_empty left)
  · exact Text.Decimal.write_injective (by simpa using same)

theorem candidate_append (lead stem : String) (suffix : Nat) :
    candidate (lead ++ stem) suffix = lead ++ candidate stem suffix := by
  unfold candidate
  split
  · rfl
  · rw [String.append_assoc]

theorem is_free_iff (space : Namespace) (names : List String) :
    space.isFree names = true ↔ ∀ name ∈ names, name ∉ space.taken := by
  simp [isFree]

/-- Each declaration is a function of the stem that gives different stems different names. -/
def Traceable (declares : String → List String) : Prop :=
  ∃ parts : List (String → String), (∀ part ∈ parts, Function.Injective part) ∧
    ∀ stem, declares stem = parts.map fun part => part stem

theorem traceable_single : Traceable fun name => [name] :=
  ⟨[id], by simp [Function.injective_id], by simp⟩

structure FirstFree (space : Namespace) (stem : String) (declares : String → List String)
    (suffix : Nat) : Prop where
  positive : 1 ≤ suffix
  free : space.isFree (declares (candidate stem suffix)) = true
  blocked : ∀ earlier, 1 ≤ earlier → earlier < suffix →
    space.isFree (declares (candidate stem earlier)) = false

theorem first_free_unique {space : Namespace} {stem : String} {declares : String → List String}
    {left right : Nat} (leftFirst : FirstFree space stem declares left)
    (rightFirst : FirstFree space stem declares right) : left = right := by
  rcases Nat.lt_trichotomy left right with before | same | after
  · have blocked := rightFirst.blocked left leftFirst.positive before
    rw [leftFirst.free] at blocked
    contradiction
  · exact same
  · have blocked := leftFirst.blocked right rightFirst.positive after
    rw [rightFirst.free] at blocked
    contradiction

/-- The search stops at the first free candidate, if there is one within its bound. -/
theorem search_first {space : Namespace} {stem : String} {declares : String → List String}
    (bound suffix : Nat)
    (reachable : ∃ steps < bound,
      space.isFree (declares (candidate stem (suffix + steps))) = true) :
    ∃ steps, space.search stem declares bound suffix = candidate stem (suffix + steps) ∧
      space.isFree (declares (candidate stem (suffix + steps))) = true ∧
      ∀ earlier < steps, space.isFree (declares (candidate stem (suffix + earlier))) = false := by
  induction bound generalizing suffix with
  | zero =>
      obtain ⟨steps, impossible, _⟩ := reachable
      omega
  | succ bound induction =>
      rw [search]
      by_cases free : space.isFree (declares (candidate stem suffix)) = true
      · rw [if_pos free]
        exact ⟨0, rfl, free, by intro earlier impossible; omega⟩
      · obtain ⟨steps, within, freeLater⟩ := reachable
        have moved : steps ≠ 0 := by
          intro zero
          rw [zero] at freeLater
          exact free freeLater
        obtain ⟨later, found, freeFound, blockedBefore⟩ := induction (suffix + 1)
          ⟨steps - 1, by omega, by rwa [show suffix + 1 + (steps - 1) = suffix + steps by omega]⟩
        rw [if_neg free]
        refine ⟨later + 1, ?_, ?_, ?_⟩
        · rw [found, show suffix + 1 + later = suffix + (later + 1) by omega]
        · rwa [show suffix + 1 + later = suffix + (later + 1) by omega] at freeFound
        · intro earlier before
          by_cases start : earlier = 0
          · rw [start]
            exact Bool.not_eq_true _ ▸ free
          · have blocked := blockedBefore (earlier - 1) (by omega)
            rwa [show suffix + 1 + (earlier - 1) = suffix + earlier by omega] at blocked

theorem length_le_letters (names : List String) (total : Nat) :
    total + names.length ≤ names.foldl (fun total name => total + (name.length + 1)) total := by
  induction names generalizing total with
  | nil => simp
  | cons name names induction =>
      have rest := induction (total + (name.length + 1))
      simp only [List.foldl_cons, List.length_cons]
      omega

/-- If every candidate of a run were blocked, each would need a declaration and a taken name of its
own, so that a run that is longer than there are such pairs holds a free one. -/
theorem free_candidate_within {declares : String → List String} (traceable : Traceable declares)
    (space : Namespace) (stem : String) :
    ∃ steps ≤ (declares stem).length * space.taken.length,
      space.isFree (declares (candidate stem (1 + steps))) = true := by
  obtain ⟨parts, injective, declared⟩ := traceable
  have size : (declares stem).length = parts.length := by rw [declared, List.length_map]
  rw [size]
  by_contra none
  have blocked : ∀ steps ≤ parts.length * space.taken.length,
      ∃ (index : Nat) (part : String → String), parts[index]? = some part ∧
        part (candidate stem (1 + steps)) ∈ space.taken := by
    intro steps within
    have taken : ¬space.isFree (declares (candidate stem (1 + steps))) = true :=
      fun free => none ⟨steps, within, free⟩
    rw [is_free_iff, declared] at taken
    push Not at taken
    obtain ⟨name, member, nameTaken⟩ := taken
    obtain ⟨part, partMember, rfl⟩ := List.mem_map.mp member
    obtain ⟨index, found⟩ := List.mem_iff_getElem?.mp partMember
    exact ⟨index, part, found, nameTaken⟩
  choose! index part found nameTaken using blocked
  have pairs : parts.length * space.taken.length + 1 ≤
      (Finset.range parts.length ×ˢ space.taken.toFinset).card := by
    rw [← Finset.card_range (parts.length * space.taken.length + 1)]
    apply Finset.card_le_card_of_injOn
      fun steps => (index steps, part steps (candidate stem (1 + steps)))
    · intro steps within
      have bound := Nat.lt_succ_iff.mp (Finset.mem_range.mp within)
      have inside := (List.getElem?_eq_some_iff.mp (found steps bound)).1
      simp [inside, nameTaken steps bound]
    · intro left leftWithin right rightWithin same
      have leftFound := found left (Nat.lt_succ_iff.mp (Finset.mem_range.mp leftWithin))
      have rightFound := found right (Nat.lt_succ_iff.mp (Finset.mem_range.mp rightWithin))
      obtain ⟨sameIndex, sameName⟩ := Prod.mk.inj same
      rw [sameIndex, rightFound] at leftFound
      rw [Option.some.inj leftFound] at sameName
      have partMember := List.mem_of_getElem? rightFound
      have suffixes := candidate_injective stem (by omega) (by omega)
        (injective _ (Option.some.inj leftFound ▸ partMember) sameName)
      omega
  have few : parts.length * space.taken.toFinset.card ≤ parts.length * space.taken.length :=
    Nat.mul_le_mul_left _ (List.toFinset_card_le _)
  rw [Finset.card_product, Finset.card_range] at pairs
  omega

/-- The bound of the search leaves room for every suffix that can be blocked. -/
theorem free_candidate_exists {declares : String → List String} (traceable : Traceable declares)
    (space : Namespace) (stem : String) :
    ∃ steps < space.searchBound (declares stem).length,
      space.isFree (declares (candidate stem (1 + steps))) = true := by
  obtain ⟨steps, few, free⟩ := free_candidate_within traceable space stem
  have letters := length_le_letters space.taken 0
  have room : (declares stem).length * space.taken.length ≤ (declares stem).length *
      space.taken.foldl (fun total name => total + (name.length + 1)) 0 :=
    Nat.mul_le_mul_left _ (by omega)
  exact ⟨steps, by rw [searchBound]; omega, free⟩

/-- A claimed group was free, and from then on it is taken. -/
theorem claim_group_spec {declares : String → List String} (traceable : Traceable declares)
    (space : Namespace) (stem : String) :
    ∃ suffix, FirstFree space stem declares suffix ∧
      space.claimGroup stem declares =
        (candidate stem suffix, space.add (declares (candidate stem suffix))) := by
  obtain ⟨steps, found, free, blocked⟩ :=
    search_first _ 1 (free_candidate_exists traceable space stem)
  refine ⟨1 + steps, ⟨by omega, free, ?_⟩, by rw [claimGroup, found]⟩
  intro earlier positive before
  have skipped := blocked (earlier - 1) (by omega)
  rwa [show 1 + (earlier - 1) = earlier by omega] at skipped

theorem claim_group_of_first_free {space : Namespace} {stem : String}
    {declares : String → List String} {suffix : Nat} (traceable : Traceable declares)
    (first : FirstFree space stem declares suffix) :
    space.claimGroup stem declares =
      (candidate stem suffix, space.add (declares (candidate stem suffix))) := by
  obtain ⟨taken, takenFirst, claimed⟩ := claim_group_spec traceable space stem
  rw [claimed, first_free_unique takenFirst first]

theorem claim_spec (space : Namespace) (stem : String) :
    ∃ suffix, FirstFree space stem (fun name => [name]) suffix ∧
      space.claim stem = (candidate stem suffix, space.add [candidate stem suffix]) :=
  claim_group_spec traceable_single space stem

/-- Names that were handed out on the way from one namespace to another. -/
structure HandedOut (before after : Namespace) (names : List String) : Prop where
  distinct : names.Nodup
  fresh : ∀ name ∈ names, name ∉ before.taken
  taken : ∀ name, name ∈ after.taken ↔ name ∈ names ∨ name ∈ before.taken

theorem handed_out_none (space : Namespace) : HandedOut space space [] :=
  ⟨List.nodup_nil, by simp, by simp⟩

theorem HandedOut.append {first second third : Namespace} {earlier later : List String}
    (before : HandedOut first second earlier) (after : HandedOut second third later) :
    HandedOut first third (earlier ++ later) := by
  refine ⟨?_, ?_, ?_⟩
  · refine List.nodup_append'.mpr ⟨before.distinct, after.distinct, ?_⟩
    intro name inEarlier inLater
    exact after.fresh name inLater ((before.taken name).mpr (Or.inl inEarlier))
  · intro name member taken
    rcases List.mem_append.mp member with inEarlier | inLater
    · exact before.fresh name inEarlier taken
    · exact after.fresh name inLater ((before.taken name).mpr (Or.inr taken))
  · intro name
    rw [after.taken, before.taken, List.mem_append]
    exact or_left_comm.trans or_assoc.symm

/-- One claim hands out one name. -/
theorem claim_handed_out (space : Namespace) (stem : String) :
    HandedOut space (space.claim stem).2 [(space.claim stem).1] := by
  obtain ⟨suffix, first, claimed⟩ := claim_spec space stem
  have free := (is_free_iff space _).mp first.free
  rw [claimed]
  exact ⟨List.nodup_singleton _, free, fun name => List.mem_append⟩

theorem claim_all_length (space : Namespace) (stems : List String) :
    (space.claimAll stems).1.length = stems.length := by
  induction stems generalizing space with
  | nil => rfl
  | cons stem stems induction => simp [claimAll, induction]

theorem claim_all_handed_out (space : Namespace) (stems : List String) :
    HandedOut space (space.claimAll stems).2 (space.claimAll stems).1 := by
  induction stems generalizing space with
  | nil => exact handed_out_none space
  | cons stem stems induction =>
      exact (claim_handed_out space stem).append (induction (space.claim stem).2)

def withLead (lead : String) (space : Namespace) : Namespace :=
  ⟨space.taken.map fun name => lead ++ name⟩

theorem is_free_with_lead (lead : String) (space : Namespace) (name : String) :
    (space.withLead lead).isFree [lead ++ name] = space.isFree [name] := by
  rw [Bool.eq_iff_iff, is_free_iff, is_free_iff]
  simp only [withLead, List.mem_singleton, forall_eq, List.mem_map, not_exists, not_and]
  constructor
  · exact fun apart taken => apart name taken rfl
  · intro absent other taken same
    have equal : other = name := by simpa using same
    exact absent (equal ▸ taken)

/-- Suffixes come last, so that a common text in front has no say in them. -/
theorem claim_with_lead (lead : String) (space : Namespace) (stem : String) :
    (space.withLead lead).claim (lead ++ stem) =
      (lead ++ (space.claim stem).1, (space.claim stem).2.withLead lead) := by
  obtain ⟨suffix, first, claimed⟩ := claim_spec space stem
  have moved : FirstFree (space.withLead lead) (lead ++ stem) (fun name => [name]) suffix := by
    refine ⟨first.positive, ?_, ?_⟩
    · rw [candidate_append, is_free_with_lead]
      exact first.free
    · intro earlier positive before
      rw [candidate_append, is_free_with_lead]
      exact first.blocked earlier positive before
  rw [claimed, claim, claim_group_of_first_free traceable_single moved, candidate_append]
  rfl

theorem claim_all_with_lead (lead : String) (space : Namespace) (stems : List String) :
    ((space.withLead lead).claimAll (stems.map fun stem => lead ++ stem)).1 =
      (space.claimAll stems).1.map fun name => lead ++ name := by
  induction stems generalizing space with
  | nil => rfl
  | cons stem stems induction =>
      simp only [List.map_cons, claimAll, claim_with_lead]
      rw [induction]

end CollectionTypes.Namespace

namespace CollectionTypes

theorem unique_names_length (transform : String → String) (literals : List String) :
    (uniqueNames transform literals).length = literals.length := by
  simp [uniqueNames, Namespace.claim_all_length]

theorem unique_names_nodup (transform : String → String) (literals : List String) :
    (uniqueNames transform literals).Nodup :=
  (Namespace.claim_all_handed_out _ _).distinct

theorem unique_names_with_lead (lead : String) (transform : String → String)
    (literals : List String) :
    uniqueNames (fun literal => lead ++ transform literal) literals =
      (uniqueNames transform literals).map fun name => lead ++ name := by
  have moved := Namespace.claim_all_with_lead lead {} (literals.map transform)
  rw [List.map_map] at moved
  exact moved

/-- Every name handed out is a candidate of what its literal was transformed to. -/
theorem unique_names_are_candidates (transform : String → String) (literals : List String) :
    ∀ name ∈ uniqueNames transform literals, ∃ literal ∈ literals, ∃ suffix,
      name = Namespace.candidate (transform literal) suffix := by
  unfold uniqueNames
  generalize ({} : Namespace) = space
  induction literals generalizing space with
  | nil => simp [Namespace.claimAll]
  | cons literal literals induction =>
      intro name member
      simp only [List.map_cons, Namespace.claimAll, List.mem_cons] at member
      rcases member with rfl | later
      · obtain ⟨suffix, _, claimed⟩ := Namespace.claim_spec space (transform literal)
        exact ⟨literal, by simp, suffix, by rw [claimed]⟩
      · obtain ⟨other, otherMember, found⟩ := induction _ name later
        exact ⟨other, by simp [otherMember], found⟩

end CollectionTypes
