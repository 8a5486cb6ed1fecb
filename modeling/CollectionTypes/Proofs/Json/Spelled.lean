import CollectionTypes.Proofs.Json.Bracketed

/-!
What the texts of documents denote. The value of an array is made of the values of its elements, that
of an object of its members in the order of the text; how deep a document is nested decides only
whether it has a value, never which.
-/

namespace CollectionTypes.Json

namespace Tree

/-- The value of a whole text is that of the tree it shows. -/
theorem parse_of_shown {text : String} {tree : Tree} (shows : Shows text.toList tree) :
    parse text = tree.value greatestDepth := by
  obtain ⟨rest, taken, blank⟩ := shows
  rw [parse, taken]
  cases denoted : tree.value greatestDepth with
  | error fault => simp [bind, Except.bind, denoted]
  | ok value => simp [bind, Except.bind, denoted, checkEnd, blank, pure, Except.pure]

def memberValue (depth : Nat) (member : Letters × Tree) : Except Fault (String × Value) := do
  let key ← member.1
  return (key, ← member.2.value depth)

theorem named_member_value (depth : Nat) (key : String) (tree : Tree) :
    memberValue depth (.ok key, tree) = (tree.value depth).map (Prod.mk key) := rfl

theorem value_of_array (depth : Nat) (trees : List Tree) :
    (Tree.array (.ofList trees)).value (depth + 1) =
      (trees.mapM (value depth)).map Value.array := by
  have elements : valueElements depth (.ofList trees) = trees.mapM (value depth) := by
    induction trees with
    | nil => rfl
    | cons tree trees induction =>
        rw [Elements.ofList, valueElements, induction, List.mapM_cons]
  rw [value, elements]
  rfl

theorem value_of_object (depth : Nat) (members : List (Letters × Tree)) :
    (Tree.object (.ofList members)).value (depth + 1) =
      (members.mapM (memberValue depth)).map Value.ofEntries := by
  have entries : valueMembers depth (.ofList members) = members.mapM (memberValue depth) := by
    induction members with
    | nil => rfl
    | cons member members induction =>
        rw [Members.ofList, valueMembers, induction, List.mapM_cons, memberValue]
        simp only [bind_assoc, pure_bind]
  rw [value, entries]
  rfl

/-! How deep a tree is nested. -/

mutual

def levels : Tree → Nat
  | .array elements => elementLevels elements + 1
  | .object members => memberLevels members + 1
  | _ => 0

def elementLevels : Elements → Nat
  | .more head tail => max (levels head) (elementLevels tail)
  | _ => 0

def memberLevels : Members → Nat
  | .more _ value tail => max (levels value) (memberLevels tail)
  | _ => 0

end

mutual

theorem value_of_levels {depth larger : Nat} : ∀ {tree : Tree}, tree.levels ≤ depth →
    depth ≤ larger → tree.value larger = tree.value depth
  | .null, _, _ | .flag _, _, _ | .number _, _, _ | .text _, _, _ | .broken _ _, _, _ => by
      rw [value, value]
  | .array elements, shallow, enough => by
      rw [levels] at shallow
      obtain ⟨depth, rfl⟩ := Nat.exists_eq_add_one_of_ne_zero (n := depth) (by omega)
      obtain ⟨larger, rfl⟩ := Nat.exists_eq_add_one_of_ne_zero (n := larger) (by omega)
      rw [value, value, elements_of_levels (Nat.le_of_succ_le_succ shallow)
        (Nat.le_of_succ_le_succ enough)]
  | .object members, shallow, enough => by
      rw [levels] at shallow
      obtain ⟨depth, rfl⟩ := Nat.exists_eq_add_one_of_ne_zero (n := depth) (by omega)
      obtain ⟨larger, rfl⟩ := Nat.exists_eq_add_one_of_ne_zero (n := larger) (by omega)
      rw [value, value, members_of_levels (Nat.le_of_succ_le_succ shallow)
        (Nat.le_of_succ_le_succ enough)]

theorem elements_of_levels {depth larger : Nat} : ∀ {trees : Elements},
    elementLevels trees ≤ depth → depth ≤ larger →
      valueElements larger trees = valueElements depth trees
  | .done, _, _ | .cut _, _, _ => by rw [valueElements, valueElements]
  | .more head tail, shallow, enough => by
      rw [elementLevels, Nat.max_le] at shallow
      rw [valueElements, valueElements, value_of_levels shallow.1 enough,
        elements_of_levels shallow.2 enough]

theorem members_of_levels {depth larger : Nat} : ∀ {members : Members},
    memberLevels members ≤ depth → depth ≤ larger →
      valueMembers larger members = valueMembers depth members
  | .done, _, _ | .cut _, _, _ | .cutKey _ _, _, _ => by rw [valueMembers, valueMembers]
  | .more key head tail, shallow, enough => by
      rw [memberLevels, Nat.max_le] at shallow
      rw [valueMembers, valueMembers, value_of_levels shallow.1 enough,
        members_of_levels shallow.2 enough]

end

mutual

/-- Only what is not nested too deep denotes anything. -/
theorem levels_of_value {depth : Nat} : ∀ {tree : Tree} {denoted : Value},
    tree.value depth = .ok denoted → tree.levels ≤ depth
  | .null, _, _ | .flag _, _, _ | .number _, _, _ | .text _, _, _ | .broken _ _, _, _ => by
      simp only [levels, Nat.zero_le]
  | .array elements, _, taken => by
      cases depth with
      | zero =>
          rw [value.eq_def] at taken
          cases taken
      | succ depth =>
          rw [value] at taken
          obtain ⟨_, each, _⟩ := Decoder.bind_eq_ok.mp taken
          exact Nat.succ_le_succ (levels_of_elements each)
  | .object members, _, taken => by
      cases depth with
      | zero =>
          rw [value.eq_def] at taken
          cases taken
      | succ depth =>
          rw [value] at taken
          obtain ⟨_, each, _⟩ := Decoder.bind_eq_ok.mp taken
          exact Nat.succ_le_succ (levels_of_members each)

theorem levels_of_elements {depth : Nat} : ∀ {trees : Elements} {denoted : List Value},
    valueElements depth trees = .ok denoted → elementLevels trees ≤ depth
  | .done, _, _ | .cut _, _, _ => by simp only [elementLevels, Nat.zero_le]
  | .more head tail, _, taken => by
      rw [valueElements] at taken
      obtain ⟨_, first, taken⟩ := Decoder.bind_eq_ok.mp taken
      obtain ⟨_, others, _⟩ := Decoder.bind_eq_ok.mp taken
      exact Nat.max_le.mpr ⟨levels_of_value first, levels_of_elements others⟩

theorem levels_of_members {depth : Nat} : ∀ {members : Members} {denoted : List (String × Value)},
    valueMembers depth members = .ok denoted → memberLevels members ≤ depth
  | .done, _, _ | .cut _, _, _ | .cutKey _ _, _, _ => by simp only [memberLevels, Nat.zero_le]
  | .more key head tail, _, taken => by
      rw [valueMembers] at taken
      obtain ⟨_, _, taken⟩ := Decoder.bind_eq_ok.mp taken
      obtain ⟨_, first, taken⟩ := Decoder.bind_eq_ok.mp taken
      obtain ⟨_, others, _⟩ := Decoder.bind_eq_ok.mp taken
      exact Nat.max_le.mpr ⟨levels_of_value first, levels_of_members others⟩

end

/-- What a tree denotes it denotes also where more levels may open. -/
theorem value_deepens {depth larger : Nat} {tree : Tree} {denoted : Value}
    (taken : tree.value depth = .ok denoted) (enough : depth ≤ larger) :
    tree.value larger = .ok denoted :=
  (value_of_levels (levels_of_value taken) enough).trans taken

def Spells (depth : Nat) (letters : List Char) (denoted : Value) : Prop :=
  ∃ tree, Shows letters tree ∧ tree.value depth = .ok denoted

def SpellsMember (depth : Nat) (letters : List Char) (entry : String × Value) : Prop :=
  ∃ tree, ShowsMember letters (.ok entry.1, tree) ∧ tree.value depth = .ok entry.2

theorem members_of_spelled {depth : Nat} {parts : List (List Char)}
    {entries : List (String × Value)}
    (spelled : List.Forall₂ (SpellsMember depth) parts entries) :
    ∃ members, List.Forall₂ ShowsMember parts members ∧
      members.mapM (memberValue depth) = .ok entries := by
  induction spelled with
  | nil => exact ⟨[], .nil, rfl⟩
  | cons first _ induction =>
      obtain ⟨tree, shows, denoted⟩ := first
      obtain ⟨members, others, taken⟩ := induction
      refine ⟨_ :: members, .cons shows others, ?_⟩
      rw [List.mapM_cons, named_member_value, denoted, taken]
      rfl

end Tree

end CollectionTypes.Json
