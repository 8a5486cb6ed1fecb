import CollectionTypes.Proofs.Json.Congruence
import CollectionTypes.Proofs.Json.Spelled

/-!
Texts that differ in one place. What is around the place is read alike in both texts, so a relation
of the values at the place gives one of the whole values; where a part is at fault, both texts are
at fault in the same way. The texts around the place have to be texts of values, but may denote none.
-/

namespace CollectionTypes.Json

/-- Both at fault in the same way, or both without fault and alike. -/
inductive Alike {α : Type} (alike : α → α → Prop) : Except Fault α → Except Fault α → Prop
  | fault (fault : Fault) : Alike alike (.error fault) (.error fault)
  | value {value value' : α} (same : alike value value') : Alike alike (.ok value) (.ok value')

namespace Alike

variable {α β : Type} {alike : α → α → Prop} {whole : β → β → Prop}

theorem bind {read read' : Except Fault α} {next next' : α → Except Fault β}
    (first : Alike alike read read')
    (rest : ∀ value value', alike value value' → Alike whole (next value) (next' value')) :
    Alike whole (read >>= next) (read' >>= next') := by
  cases first with
  | fault fault => exact .fault fault
  | value same => exact rest _ _ same

theorem bind_same (read : Except Fault α) {next next' : α → Except Fault β}
    (rest : ∀ value, read = .ok value → Alike whole (next value) (next' value)) :
    Alike whole (read >>= next) (read >>= next') := by
  cases read with
  | error fault => exact .fault fault
  | ok value => exact rest value rfl

theorem map {read read' : Except Fault α} {convert : α → β} (first : Alike alike read read')
    (each : ∀ value value', alike value value' → whole (convert value) (convert value')) :
    Alike whole (read.map convert) (read'.map convert) := by
  cases first with
  | fault fault => exact .fault fault
  | value same => exact .value (each _ _ same)

/-- Where nothing that is done with the values tells them apart, nothing tells the reads apart. -/
theorem described_eq {ε : Type} {describe : Fault → ε} {next : α → Except ε β}
    {read read' : Except Fault α}
    (first : Alike (fun value value' => next value = next value') read read') :
    (read.mapError describe >>= next) = (read'.mapError describe >>= next) := by
  cases first with
  | fault fault => rfl
  | value same => exact same

theorem in_one {read : β → Except Fault α} {source source' : β} (before after : List β)
    (one : Alike alike (read source) (read source')) :
    Alike (InOne alike) ((before ++ source :: after).mapM read)
      ((before ++ source' :: after).mapM read) := by
  induction before with
  | nil =>
      rw [List.nil_append, List.nil_append, List.mapM_cons, List.mapM_cons]
      exact bind one fun value value' same => bind_same _ fun back _ => .value (.intro [] back same)
  | cons first before induction =>
      rw [List.cons_append, List.cons_append, List.mapM_cons, List.mapM_cons]
      refine bind_same _ fun value _ => bind induction ?_
      rintro _ _ ⟨front, back, same⟩
      exact .value (.intro (value :: front) back same)

end Alike

namespace Tree

/-- Texts of values that are alike, or at fault in the same way, wherever so many levels may open. -/
def Related (least : Nat) (alike : Value → Value → Prop) (text text' : List Char) : Prop :=
  ∃ tree tree', Shows text tree ∧ Shows text' tree' ∧
    ∀ depth, least ≤ depth → Alike alike (tree.value depth) (tree'.value depth)

inductive ElementDiffers (differ : List Char → List Char → Prop) : List Char → List Char → Prop
  | intro {before after : List (List Char)} {trees treesAfter : List Tree}
      {part part' text text' : List Char}
      (shownBefore : List.Forall₂ Shows before trees)
      (shownAfter : List.Forall₂ Shows after treesAfter) (parts : differ part part')
      (bracketed : Bracketed '[' ']' (before ++ part :: after) text)
      (bracketed' : Bracketed '[' ']' (before ++ part' :: after) text') :
      ElementDiffers differ text text'

inductive MemberDiffers (key : String) (differ : List Char → List Char → Prop) :
    List Char → List Char → Prop
  | intro {before after : List (List Char)} {members membersAfter : List (Letters × Tree)}
      {name part part' text text' : List Char}
      (shownBefore : List.Forall₂ ShowsMember before members)
      (shownAfter : List.Forall₂ ShowsMember after membersAfter)
      (named : Shows name (.text (.ok key))) (parts : differ part part')
      (bracketed : Bracketed '\x7b' '\x7d' (before ++ (name ++ ':' :: part) :: after) text)
      (bracketed' : Bracketed '\x7b' '\x7d' (before ++ (name ++ ':' :: part') :: after) text') :
      MemberDiffers key differ text text'

/-- Ways of not saying anything under a key: no member, `null`, or the default. -/
inductive Unsaid (key : String) (standard : Value) : List (List Char) → Prop
  | left_out : Unsaid key standard []
  | null {member : List Char} (spelled : SpellsMember 1 member (key, .null)) :
      Unsaid key standard [member]
  | default {member : List Char} (spelled : SpellsMember 1 member (key, standard)) :
      Unsaid key standard [member]

/-- Texts of an object that differ only in how they do not say anything under a key of this table,
which no other of its members has. -/
inductive OptionalDiffers (optional : List (String × Value)) : List Char → List Char → Prop
  | intro {key : String} {standard : Value} {before after said said' : List (List Char)}
      {members membersAfter : List (Letters × Tree)} {text text' : List Char}
      (known : (key, standard) ∈ optional)
      (shownBefore : List.Forall₂ ShowsMember before members)
      (shownAfter : List.Forall₂ ShowsMember after membersAfter)
      (other : ∀ member ∈ members ++ membersAfter, member.1 ≠ .ok key)
      (unsaid : Unsaid key standard said) (unsaid' : Unsaid key standard said')
      (bracketed : Bracketed '\x7b' '\x7d' (before ++ (said ++ after)) text)
      (bracketed' : Bracketed '\x7b' '\x7d' (before ++ (said' ++ after)) text') :
      OptionalDiffers optional text text'

section Differences

variable {least : Nat} {alike whole : Value → Value → Prop} {key : String}
variable {differ : List Char → List Char → Prop} {text text' : List Char}

theorem Related.deeper {larger : Nat} (related : Related least alike text text')
    (enough : least ≤ larger) : Related larger alike text text' := by
  obtain ⟨tree, tree', shows, shows', values⟩ := related
  exact ⟨tree, tree', shows, shows', fun depth deep => values depth (enough.trans deep)⟩

theorem related_of_element
    (lift : ∀ values values', InOne alike values values' → whole (.array values) (.array values'))
    (parts : ∀ part part', differ part part' → Related least alike part part')
    (differs : ElementDiffers differ text text') : Related (least + 1) whole text text' := by
  cases differs with
  | @intro before after trees treesAfter part part' _ _ shownBefore shownAfter differ bracketed
      bracketed' =>
    obtain ⟨tree, tree', shows, shows', values⟩ := parts part part' differ
    refine ⟨_, _, array_shown (List.rel_append shownBefore (.cons shows shownAfter)) bracketed,
      array_shown (List.rel_append shownBefore (.cons shows' shownAfter)) bracketed', ?_⟩
    intro depth enough
    obtain ⟨depth, rfl⟩ := Nat.exists_eq_add_one_of_ne_zero (Nat.ne_zero_of_lt enough)
    rw [value_of_array, value_of_array]
    exact .map (.in_one trees treesAfter (values depth (Nat.le_of_succ_le_succ enough))) lift

theorem related_of_member
    (lift : ∀ entries entries', InOne (fun entry entry' => entry.1 = key ∧ entry'.1 = key ∧
      alike entry.2 entry'.2) entries entries' → whole (.ofEntries entries) (.ofEntries entries'))
    (parts : ∀ part part', differ part part' → Related least alike part part')
    (differs : MemberDiffers key differ text text') : Related (least + 1) whole text text' := by
  cases differs with
  | @intro before after members membersAfter name part part' _ _ shownBefore shownAfter named
      differ bracketed bracketed' =>
    obtain ⟨tree, tree', shows, shows', values⟩ := parts part part' differ
    have shown {part : List Char} {tree : Tree} (shows : Shows part tree) :
        ShowsMember (name ++ ':' :: part) (.ok key, tree) := ⟨name, part, rfl, named, shows⟩
    refine ⟨_, _,
      object_shown (List.rel_append shownBefore (.cons (shown shows) shownAfter)) bracketed,
      object_shown (List.rel_append shownBefore (.cons (shown shows') shownAfter)) bracketed', ?_⟩
    intro depth enough
    obtain ⟨depth, rfl⟩ := Nat.exists_eq_add_one_of_ne_zero (Nat.ne_zero_of_lt enough)
    rw [value_of_object, value_of_object]
    refine .map (.in_one members membersAfter ?_) lift
    rw [named_member_value, named_member_value]
    exact .map (values depth (Nat.le_of_succ_le_succ enough)) fun _ _ same => ⟨rfl, rfl, same⟩

/-- What is not said denotes no entry, or one with `null` or the default. -/
theorem unsaid_denotes {standard : Value} {said : List (List Char)}
    (unsaid : Unsaid key standard said) :
    ∃ members entries, List.Forall₂ ShowsMember said members ∧
      (∀ depth, 1 ≤ depth → members.mapM (memberValue depth) = .ok entries) ∧
      (entries = [] ∨ ∃ value, entries = [(key, value)] ∧ (value = .null ∨ value = standard)) := by
  have single {member : List Char} {value : Value} (spelled : SpellsMember 1 member (key, value)) :
      ∃ members, List.Forall₂ ShowsMember [member] members ∧
        ∀ depth, 1 ≤ depth → members.mapM (memberValue depth) = .ok [(key, value)] := by
    obtain ⟨tree, shows, denoted⟩ := spelled
    refine ⟨[_], .cons shows .nil, fun depth enough => ?_⟩
    rw [List.mapM_cons, named_member_value, value_deepens denoted enough]
    rfl
  cases unsaid with
  | left_out => exact ⟨[], [], .nil, fun _ _ => rfl, .inl rfl⟩
  | null spelled =>
      obtain ⟨members, shown, denoted⟩ := single spelled
      exact ⟨members, _, shown, denoted, .inr ⟨.null, rfl, .inl rfl⟩⟩
  | default spelled =>
      obtain ⟨members, shown, denoted⟩ := single spelled
      exact ⟨members, _, shown, denoted, .inr ⟨standard, rfl, .inr rfl⟩⟩

theorem keys_of_members {depth : Nat} {members : List (Letters × Tree)}
    {entries : List (String × Value)} (other : ∀ member ∈ members, member.1 ≠ .ok key)
    (taken : members.mapM (memberValue depth) = .ok entries) : key ∉ entries.map (·.1) := by
  replace taken := Decoder.map_eq_ok.mp taken
  induction taken with
  | nil => exact List.not_mem_nil
  | @cons member entry members entries first _ induction =>
      obtain ⟨name, named, rest⟩ := Decoder.bind_eq_ok.mp first
      obtain ⟨value, _, same⟩ := Decoder.bind_eq_ok.mp rest
      cases same
      rw [List.map_cons, List.mem_cons, not_or]
      exact ⟨fun same => other member (List.mem_cons_self ..) (same ▸ named),
        induction fun member inside => other member (List.mem_cons_of_mem _ inside)⟩

/-- A reader that does not see the entry of the key reads the texts alike. -/
theorem related_of_optional {α : Type} {read : Value → Except Fault α}
    {optional : List (String × Value)}
    (unseen : ∀ key standard, (key, standard) ∈ optional → ∀ before after value,
      key ∉ before.map (·.1) → key ∉ after.map (·.1) → (value = .null ∨ value = standard) →
        read (.ofEntries (before ++ (key, value) :: after)) = read (.ofEntries (before ++ after)))
    (differs : OptionalDiffers optional text text') :
    Related 2 (fun value value' => read value = read value') text text' := by
  cases differs with
  | @intro key standard before after said said' members membersAfter _ _ known shownBefore
      shownAfter other unsaid unsaid' bracketed bracketed' =>
    obtain ⟨saidMembers, saidEntries, shown, denoted, form⟩ := unsaid_denotes unsaid
    obtain ⟨saidMembers', saidEntries', shown', denoted', form'⟩ := unsaid_denotes unsaid'
    refine ⟨_, _,
      object_shown (List.rel_append shownBefore (List.rel_append shown shownAfter)) bracketed,
      object_shown (List.rel_append shownBefore (List.rel_append shown' shownAfter)) bracketed', ?_⟩
    intro depth enough
    obtain ⟨depth, rfl⟩ := Nat.exists_eq_add_one_of_ne_zero (Nat.ne_zero_of_lt enough)
    have some := Nat.le_of_succ_le_succ enough
    rw [value_of_object, value_of_object, List.mapM_append, List.mapM_append, List.mapM_append,
      List.mapM_append, denoted depth some, denoted' depth some]
    cases frontTaken : members.mapM (memberValue depth) with
    | error fault => exact .fault fault
    | ok front =>
        cases backTaken : membersAfter.mapM (memberValue depth) with
        | error fault => exact .fault fault
        | ok back =>
            have fresh := keys_of_members
              (fun member inside => other member (List.mem_append_left _ inside)) frontTaken
            have freshAfter := keys_of_members
              (fun member inside => other member (List.mem_append_right _ inside)) backTaken
            have left_out {entries : List (String × Value)} (form : entries = [] ∨
                ∃ value, entries = [(key, value)] ∧ (value = .null ∨ value = standard)) :
                read (.ofEntries (front ++ (entries ++ back))) =
                  read (.ofEntries (front ++ back)) := by
              rcases form with rfl | ⟨value, rfl, form⟩
              · rfl
              · exact unseen key standard known front back value fresh freshAfter form
            exact .value ((left_out form).trans (left_out form').symm)

end Differences

end Tree

end CollectionTypes.Json
