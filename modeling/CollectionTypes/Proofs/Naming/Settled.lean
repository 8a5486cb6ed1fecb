import CollectionTypes.Proofs.Naming.Namespace

/-!
How a stem settles on its name, said without the search and its bound: as a loop that goes on until
all declarations are free, and as a rule about the names that are taken. Names that are made one
after the other follow the rule with all earlier ones taken, so that later literals rename nothing.
Whether a name is an identifier is not asked here.
-/

namespace CollectionTypes.Namespace

theorem candidate_numbered (stem : String) {suffix : Nat} (numbered : 2 ≤ suffix) :
    candidate stem suffix = stem ++ toString suffix := by
  rw [candidate, if_neg (by omega), Text.Decimal.write_eq_to_string]

theorem is_free_eq_false_iff (space : Namespace) (names : List String) :
    space.isFree names = false ↔ ∃ name ∈ names, name ∈ space.taken := by
  rw [← Bool.not_eq_true, is_free_iff]
  push Not
  rfl

/-- The search as a loop without a bound: from a suffix on, up to the first one with which all
declarations are free. -/
inductive Ends (space : Namespace) (stem : String) (declares : String → List String) :
    Nat → Nat → Prop
  | here {suffix : Nat} (free : ∀ name ∈ declares (candidate stem suffix), name ∉ space.taken) :
      Ends space stem declares suffix suffix
  | later {suffix last : Nat}
      (blocked : ∃ name ∈ declares (candidate stem suffix), name ∈ space.taken)
      (rest : Ends space stem declares (suffix + 1) last) : Ends space stem declares suffix last

theorem Ends.le {space : Namespace} {stem : String} {declares : String → List String}
    {start last : Nat} (ends : Ends space stem declares start last) : start ≤ last := by
  induction ends with
  | here _ => exact Nat.le_refl _
  | later _ _ induction => exact Nat.le_of_succ_le induction

/-- A search with a bound that reaches the end of the loop stops where the loop does. -/
theorem Ends.search {space : Namespace} {stem : String} {declares : String → List String}
    {start last : Nat} (ends : Ends space stem declares start last) {bound : Nat}
    (reaches : last < start + bound) :
    space.search stem declares bound start = candidate stem last := by
  induction ends generalizing bound with
  | here free =>
      cases bound with
      | zero => omega
      | succ bound => rw [Namespace.search, if_pos ((is_free_iff space _).mpr free)]
  | later blocked rest induction =>
      cases bound with
      | zero =>
          have after := rest.le
          omega
      | succ bound =>
          have taken := (is_free_eq_false_iff space _).mpr blocked
          rw [Namespace.search, if_neg (by rw [taken]; decide)]
          exact induction (by omega)

/-- The name of a stem beside names that are taken: the stem itself if all that it declares is free,
and otherwise the stem with the smallest number from 2 for which that holds. -/
inductive Settled (taken : List String) (declares : String → List String) (stem : String) :
    String → Prop
  | plain (free : ∀ name ∈ declares stem, name ∉ taken) : Settled taken declares stem stem
  | numbered {number : Nat} (blocked : ∃ name ∈ declares stem, name ∈ taken)
      (fromTwo : 2 ≤ number) (free : ∀ name ∈ declares (stem ++ toString number), name ∉ taken)
      (least : ∀ smaller, 2 ≤ smaller → smaller < number →
        ∃ name ∈ declares (stem ++ toString smaller), name ∈ taken) :
      Settled taken declares stem (stem ++ toString number)

theorem Settled.congr {taken others : List String} {declares : String → List String}
    {stem name : String} (settled : Settled taken declares stem name)
    (same : ∀ name, name ∈ taken ↔ name ∈ others) : Settled others declares stem name := by
  cases settled with
  | plain free => exact .plain (by simpa only [same] using free)
  | numbered blocked fromTwo free least =>
      exact .numbered (by simpa only [same] using blocked) fromTwo
        (by simpa only [same] using free) (by simpa only [same] using least)

section FirstFree

variable {space : Namespace} {stem : String} {declares : String → List String} {suffix : Nat}

theorem FirstFree.ends (first : FirstFree space stem declares suffix) :
    Ends space stem declares 1 suffix := by
  have from_start (steps : Nat) : ∀ start, 1 ≤ start → start + steps = suffix →
      Ends space stem declares start suffix := by
    induction steps with
    | zero =>
        intro start _ reached
        rw [show start = suffix by omega]
        exact .here ((is_free_iff space _).mp first.free)
    | succ steps induction =>
        intro start positive reached
        have blocked := first.blocked start positive (by omega)
        exact .later ((is_free_eq_false_iff space _).mp blocked)
          (induction (start + 1) (by omega) (by omega))
  have positive := first.positive
  exact from_start (suffix - 1) 1 (Nat.le_refl 1) (by omega)

/-- The bound of the search has no say in what it finds. -/
theorem FirstFree.search (first : FirstFree space stem declares suffix) {bound : Nat}
    (reaches : suffix ≤ bound) : space.search stem declares bound 1 = candidate stem suffix :=
  first.ends.search (by omega)

theorem FirstFree.settled (first : FirstFree space stem declares suffix) :
    Settled space.taken declares stem (candidate stem suffix) := by
  have free := (is_free_iff space _).mp first.free
  have positive := first.positive
  by_cases own : suffix = 1
  · subst own
    exact .plain free
  · have numbered : 2 ≤ suffix := by omega
    rw [candidate_numbered stem numbered] at free ⊢
    refine .numbered ?_ numbered free ?_
    · exact (is_free_eq_false_iff space _).mp (first.blocked 1 (Nat.le_refl 1) (by omega))
    · intro smaller fromTwo before
      rw [← candidate_numbered stem fromTwo]
      exact (is_free_eq_false_iff space _).mp (first.blocked smaller (by omega) before)

/-- Every blocked suffix takes a declaration and a taken name of its own. -/
theorem FirstFree.suffix_le (first : FirstFree space stem declares suffix)
    (traceable : Traceable declares) :
    suffix ≤ (declares stem).length * space.taken.length + 1 := by
  obtain ⟨steps, few, free⟩ := free_candidate_within traceable space stem
  by_contra beyond
  have blocked := first.blocked (1 + steps) (by omega) (by omega)
  rw [free] at blocked
  contradiction

end FirstFree

theorem claim_settled (space : Namespace) (stem : String) :
    Settled space.taken (fun name => [name]) stem (space.claim stem).1 := by
  obtain ⟨suffix, first, claimed⟩ := claim_spec space stem
  rw [claimed]
  exact first.settled

theorem claim_all_append (space : Namespace) (stems more : List String) :
    (space.claimAll (stems ++ more)).1 =
      (space.claimAll stems).1 ++ ((space.claimAll stems).2.claimAll more).1 := by
  induction stems generalizing space with
  | nil => rfl
  | cons stem stems induction =>
      simp only [List.cons_append, claimAll]
      rw [induction]

/-- Each stem settles beside what was taken before and the names of the stems in front of it. -/
theorem claim_all_settled (space : Namespace) {stems : List String} {index : Nat} {stem : String}
    (found : stems[index]? = some stem) :
    ∃ name, (space.claimAll stems).1[index]? = some name ∧
      Settled ((space.claimAll stems).1.take index ++ space.taken) (fun name => [name]) stem
        name := by
  induction stems generalizing space index with
  | nil => simp at found
  | cons first stems induction =>
      cases index with
      | zero =>
          obtain rfl : first = stem := by simpa using found
          exact ⟨(space.claim first).1, rfl, claim_settled space first⟩
      | succ index =>
          obtain ⟨name, named, settled⟩ := induction (space.claim first).2 (by simpa using found)
          refine ⟨name, by simpa [claimAll] using named, settled.congr ?_⟩
          intro other
          have taken := (claim_handed_out space first).taken other
          simp only [claimAll, List.take_succ_cons, List.cons_append, List.mem_cons,
            List.mem_append, taken]
          tauto

end CollectionTypes.Namespace

namespace CollectionTypes

/-- Distinct names in the order of the literals: each is what its literal becomes, unless an earlier
name is equal to that, and then gets the smallest number from 2 that no earlier name has. Literals
that are appended change none of them. -/
theorem unique_names_settled (transform : String → String) (literals more : List String) :
    (uniqueNames transform literals).length = literals.length ∧
      (uniqueNames transform literals).Nodup ∧
      (∀ index literal, literals[index]? = some literal →
        ∃ name, (uniqueNames transform literals)[index]? = some name ∧
          Namespace.Settled ((uniqueNames transform literals).take index) (fun name => [name])
            (transform literal) name) ∧
      uniqueNames transform literals <+: uniqueNames transform (literals ++ more) := by
  refine ⟨unique_names_length transform literals, unique_names_nodup transform literals, ?_, ?_⟩
  · intro index literal found
    have stem : (literals.map transform)[index]? = some (transform literal) := by
      rw [List.getElem?_map, found, Option.map_some]
    obtain ⟨name, named, settled⟩ := Namespace.claim_all_settled {} stem
    rw [List.append_nil] at settled
    exact ⟨name, named, settled⟩
  · have grown := Namespace.claim_all_append {} (literals.map transform) (more.map transform)
    rw [← List.map_append] at grown
    exact ⟨_, grown.symm⟩

/-- The second name is the one that the third literal wants, and the third literal gets a number on
top of its own. -/
theorem unique_names_settled_crossing :
    let names := uniqueNames id ["AB", "AB", "AB2"]
    names = ["AB", "AB2", "AB22"] ∧
      Namespace.Settled ["AB", "AB2"] (fun name => [name]) "AB2" "AB22" ∧
      names <+: uniqueNames id ["AB", "AB", "AB2", "AB"] := by
  intro names
  have known : names = ["AB", "AB2", "AB22"] := by decide +kernel
  obtain ⟨_, _, settled, grown⟩ := unique_names_settled id ["AB", "AB", "AB2"] ["AB"]
  obtain ⟨name, named, third⟩ := settled 2 "AB2" rfl
  have last : name = "AB22" := by
    have found : names[2]? = some name := named
    rw [known] at found
    exact (Option.some.inj found).symm
  have earlier : (uniqueNames id ["AB", "AB", "AB2"]).take 2 = ["AB", "AB2"] :=
    congrArg (List.take 2) known
  rw [last, earlier] at third
  exact ⟨known, third, grown⟩

end CollectionTypes
