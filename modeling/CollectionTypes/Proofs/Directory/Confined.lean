import CollectionTypes.Proofs.Directory.Tree

/-!
Changes that are confined to the files of some paths. The directories stay, so that every path leads
where it led before; a path that leads to none of these files finds what it found before, or as
little. Directories that are made are no part of this.
-/

namespace CollectionTypes.FileTree

/-- The same directories, and the same files but for those that some paths lead to. -/
structure ConfinedTo (paths : List String) (before after : FileTree) : Prop
    extends SameDirectories before after where
  elsewhere : ∀ location, (∀ path ∈ paths, before.fileLocation? path ≠ some location) →
    after.node? location = before.node? location

def LeadsApart (tree : FileTree) (others : List String) (path : String) : Prop :=
  ∀ location, tree.fileLocation? path = some location →
    ∀ other ∈ others, tree.fileLocation? other ≠ some location

/-- A path finds the same content, or as before none, and is or is not there as before. -/
structure FindsSame (before after : FileTree) (path : String) : Prop where
  content : (after.read path).toOption = (before.read path).toOption
  presence : after.contains path = before.contains path

section Confined

variable {paths : List String} {tree before middle after : FileTree} {path : String}
  {content : FileContent}

theorem SameDirectories.refl (tree : FileTree) : SameDirectories tree tree :=
  ⟨rfl, fun _ => Iff.rfl⟩

theorem SameDirectories.trans (first : SameDirectories before middle)
    (second : SameDirectories middle after) : SameDirectories before after where
  here := second.here.trans first.here
  directories location := (second.directories location).trans (first.directories location)

theorem ConfinedTo.refl (paths : List String) (tree : FileTree) : ConfinedTo paths tree tree :=
  ⟨.refl tree, fun _ _ => rfl⟩

theorem ConfinedTo.trans (first : ConfinedTo paths before middle)
    (second : ConfinedTo paths middle after) : ConfinedTo paths before after where
  toSameDirectories := first.toSameDirectories.trans second.toSameDirectories
  elsewhere location apart := by
    have still : ∀ path ∈ paths, middle.fileLocation? path ≠ some location := by
      intro path member
      rw [file_location_of_same first.toSameDirectories]
      exact apart path member
    exact (second.elsewhere location still).trans (first.elsewhere location apart)

theorem confined_of_write (member : path ∈ paths) (wrote : tree.write path content = .ok after) :
    ConfinedTo paths tree after := by
  obtain ⟨location, leads, rfl⟩ := put_of_write wrote
  refine ⟨same_directories_put content (place_of_file_location leads).1, fun other apart => ?_⟩
  have elsewhere : other ≠ location := by
    rintro rfl
    exact apart path member leads
  exact node_put_other tree (.file content) elsewhere

theorem confined_of_write_with (member : path ∈ paths) (content : FileContent)
    (interruption : Option Interruption) :
    ConfinedTo paths tree (tree.writeWith path content interruption).2 := by
  rcases write_with_cases tree path content interruption with same | ⟨held, wrote⟩
  · rw [same]
    exact .refl paths tree
  · exact confined_of_write member wrote

theorem confined_of_remove (member : path ∈ paths) (removed : tree.remove path = .ok after) :
    ConfinedTo paths tree after := by
  obtain ⟨location, leads, rfl⟩ := erase_of_remove removed
  refine ⟨same_directories_erase (place_of_file_location leads).1, fun other apart => ?_⟩
  have elsewhere : other ≠ location := by
    rintro rfl
    exact apart path member leads
  exact node_erase_other tree elsewhere

/-! What a path finds. -/

theorem walk_misses_directory {location target : Location} {name : String} {rest : List String}
    (closed : tree.node? (step location name) ≠ some .directory) :
    tree.walk location (name :: rest) ≠ .ok (.found target .directory) := by
  rw [walk]
  cases found : tree.node? (step location name) with
  | none => cases rest <;> simp
  | some node =>
      cases node with
      | directory => exact absurd found closed
      | file content => cases rest <;> simp

theorem walk_to_directory_iff (same : SameDirectories before after) {target : Location}
    (location : Location) (names : List String) :
    after.walk location names = .ok (.found target .directory) ↔
      before.walk location names = .ok (.found target .directory) := by
  induction names generalizing location with
  | nil => exact Iff.rfl
  | cons name rest induction =>
      have directories := same.directories (step location name)
      by_cases open_ : before.node? (step location name) = some .directory
      · rw [walk_directory open_, walk_directory (directories.mpr open_)]
        exact induction _
      · exact iff_of_false (walk_misses_directory (mt directories.mp open_))
          (walk_misses_directory open_)

theorem place_directory_iff (same : SameDirectories before after) {target : Location} :
    after.place path = .ok (.found target .directory) ↔
      before.place path = .ok (.found target .directory) := by
  have start : after.start path = before.start path := by
    rw [FileTree.start, FileTree.start, same.here]
  unfold place
  rw [start]
  cases check path with
  | error fault => exact iff_of_false (by simp [bind, Except.bind]) (by simp [bind, Except.bind])
  | ok checked => exact walk_to_directory_iff same _ _

/-- Without a file or a place for one, a path leads to a directory or nowhere. -/
theorem finds_no_file (none : tree.fileLocation? path = none) :
    (tree.read path).toOption = .none ∧
      (tree.contains path = true ↔ ∃ target, tree.place path = .ok (.found target .directory)) := by
  unfold fileLocation? at none
  unfold read contains
  cases placed : tree.place path with
  | error fault => simp [bind, Except.bind, Except.toOption]
  | ok found =>
      rw [placed] at none
      obtain ⟨location, _ | content⟩ | location := found
      · exact ⟨rfl, iff_of_true rfl ⟨location, rfl⟩⟩
      · contradiction
      · contradiction

theorem finds_same_of_node {location : Location} (same : SameDirectories before after)
    (leads : before.fileLocation? path = some location)
    (kept : after.node? location = before.node? location) : FindsSame before after path := by
  have still := (file_location_of_same same path).trans leads
  have place : after.place path = before.place path := by
    rw [(place_of_file_location still).2, (place_of_file_location leads).2, placeAt, placeAt, kept]
  constructor
  · rw [read, read, place]
  · rw [contains, contains, place]

/-- A path that leads to none of the files that may have changed finds what it found before. -/
theorem finds_same_of_apart (confined : ConfinedTo paths before after)
    (apart : before.LeadsApart paths path) : FindsSame before after path := by
  have same := confined.toSameDirectories
  cases leads : before.fileLocation? path with
  | some location =>
      exact finds_same_of_node same leads
        (confined.elsewhere location (apart location leads))
  | none =>
      have still := (file_location_of_same same path).trans leads
      obtain ⟨unread, present⟩ := finds_no_file leads
      obtain ⟨stillUnread, stillPresent⟩ := finds_no_file still
      refine ⟨stillUnread.trans unread.symm, Bool.eq_iff_iff.mpr ?_⟩
      rw [present, stillPresent]
      exact exists_congr fun target => place_directory_iff same

theorem read_of_write (wrote : tree.write path content = .ok after) :
    after.read path = .ok content := by
  obtain ⟨location, leads, rfl⟩ := put_of_write wrote
  have free := (place_of_file_location leads).1
  have same := same_directories_put content free
  exact read_of_node ((file_location_of_same same path).trans leads)
    (node_put_self tree (.file content) (inner_of_no_directory free))

end Confined

end CollectionTypes.FileTree
