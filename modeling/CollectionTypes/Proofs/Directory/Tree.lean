import CollectionTypes.Directory.Tree
import Mathlib.Data.List.Basic

/-!
What writing and removing a file does to the paths of a tree. Where a path leads depends on the
directories alone, which neither changes, so two paths that lead to one file do so before and after.
Directories that are made leave every file where it is; which paths they open is no part of this.
-/

namespace CollectionTypes

/-- Where a file is or could be put; a directory leaves no place for one. -/
def Place.file? : Place → Option Location
  | .found location (.file _) => some location
  | .found _ .directory => none
  | .missing location => some location

namespace FileTree

def fileLocation? (tree : FileTree) (path : String) : Option Location :=
  (tree.place path).toOption.bind Place.file?

def placeAt (tree : FileTree) (location : Location) : Place :=
  match tree.node? location with
  | some node => .found location node
  | none => .missing location

/-! Nodes after a change at one location. -/

section Nodes

variable {location other : Location}

theorem lookup_filter_self (entries : List (Location × Node)) :
    (entries.filter fun entry => entry.1 ≠ location).lookup location = none := by
  rw [List.lookup_eq_none_iff]
  intro entry member
  have apart : entry.1 ≠ location := by simpa using (List.mem_filter.mp member).2
  exact bne_iff_ne.mpr apart.symm

theorem lookup_filter_other (apart : other ≠ location) (entries : List (Location × Node)) :
    (entries.filter fun entry => entry.1 ≠ location).lookup other = entries.lookup other := by
  induction entries with
  | nil => rfl
  | cons entry entries induction =>
      obtain ⟨name, kept⟩ := entry
      by_cases erased : name = location
      · have passed : (other == name) = false := beq_false_of_ne (erased ▸ apart)
        rw [List.filter_cons_of_neg (by simpa using erased), induction, List.lookup_cons, passed]
      · rw [List.filter_cons_of_pos (by simpa using erased), List.lookup_cons, List.lookup_cons,
          induction]

theorem node_erase_self (tree : FileTree) (inner : location ≠ []) :
    (tree.erase location).node? location = none := by
  rw [node?, if_neg (by simpa using inner)]
  exact lookup_filter_self tree.entries

theorem node_erase_other (tree : FileTree) (apart : other ≠ location) :
    (tree.erase location).node? other = tree.node? other := by
  unfold node? erase
  rw [lookup_filter_other apart]

theorem node_put_self (tree : FileTree) (node : Node) (inner : location ≠ []) :
    (tree.put location node).node? location = some node := by
  simp [node?, put, inner]

theorem node_put_other (tree : FileTree) (node : Node) (apart : other ≠ location) :
    (tree.put location node).node? other = tree.node? other := by
  have erased := node_erase_other tree apart
  simp only [node?, put] at erased ⊢
  rw [List.lookup_cons, beq_false_of_ne apart]
  exact erased

theorem inner_of_no_directory {tree : FileTree} (free : tree.node? location ≠ some .directory) :
    location ≠ [] := by
  rintro rfl
  exact free rfl

end Nodes

/-! Where paths lead. -/

structure SameDirectories (before after : FileTree) : Prop where
  here : after.here = before.here
  directories : ∀ location, after.node? location = some .directory ↔
    before.node? location = some .directory

section Walks

variable {tree before after : FileTree} {location target : Location} {path : String}
  {content : FileContent}

theorem walk_directory {name : String} {rest : List String}
    (open_ : tree.node? (step location name) = some .directory) :
    tree.walk location (name :: rest) = tree.walk (step location name) rest := by
  rw [walk]
  simp only [open_]

/-- A step to anything but a directory is the last one. -/
theorem walk_end {name : String} {rest : List String}
    (closed : tree.node? (step location name) ≠ some .directory) :
    (tree.walk location (name :: rest)).toOption.bind Place.file? =
      if rest.isEmpty then some (step location name) else none := by
  rw [walk]
  cases found : tree.node? (step location name) with
  | none => cases rest <;> simp [Except.toOption, Place.file?]
  | some node =>
      cases node with
      | directory => exact absurd found closed
      | file content => cases rest <;> simp [Except.toOption, Place.file?]

theorem walk_of_same (same : SameDirectories before after) (location : Location)
    (names : List String) :
    (after.walk location names).toOption.bind Place.file? =
      (before.walk location names).toOption.bind Place.file? := by
  induction names generalizing location with
  | nil => rfl
  | cons name rest induction =>
      have directories := same.directories (step location name)
      by_cases open_ : before.node? (step location name) = some .directory
      · rw [walk_directory open_, walk_directory (directories.mpr open_)]
        exact induction _
      · rw [walk_end open_, walk_end (mt directories.mp open_)]

theorem file_location_of_same (same : SameDirectories before after) (path : String) :
    after.fileLocation? path = before.fileLocation? path := by
  have start : after.start path = before.start path := by
    rw [FileTree.start, FileTree.start, same.here]
  unfold fileLocation? place
  rw [start]
  cases check path with
  | error fault => rfl
  | ok checked => exact walk_of_same same _ _

theorem walk_to_file {names : List String}
    (leads : (tree.walk location names).toOption.bind Place.file? = some target) :
    tree.node? target ≠ some .directory ∧ tree.walk location names = .ok (tree.placeAt target) := by
  induction names generalizing location with
  | nil => contradiction
  | cons name rest induction =>
      by_cases open_ : tree.node? (step location name) = some .directory
      · rw [walk_directory open_] at leads ⊢
        exact induction leads
      · rw [walk_end open_] at leads
        obtain ⟨ended, rfl⟩ : rest.isEmpty = true ∧ step location name = target := by
          simpa using leads
        refine ⟨open_, ?_⟩
        rw [walk, placeAt]
        cases found : tree.node? (step location name) with
        | none => simp [ended]
        | some node =>
            cases node with
            | directory => exact absurd found open_
            | file content => simp [ended]

theorem place_of_file_location (leads : tree.fileLocation? path = some location) :
    tree.node? location ≠ some .directory ∧ tree.place path = .ok (tree.placeAt location) := by
  unfold fileLocation? place at leads
  unfold place
  cases checked : check path with
  | error fault =>
      rw [checked] at leads
      contradiction
  | ok done =>
      rw [checked] at leads
      exact walk_to_file leads

theorem read_of_node (leads : tree.fileLocation? path = some location)
    (held : tree.node? location = some (.file content)) : tree.read path = .ok content := by
  have placed := (place_of_file_location leads).2
  simp only [placeAt, held] at placed
  simp only [read, placed]
  rfl

theorem contains_of_read (held : tree.read path = .ok content) : tree.contains path = true := by
  unfold read at held
  unfold contains
  cases placed : tree.place path with
  | error fault =>
      rw [placed] at held
      contradiction
  | ok found =>
      rw [placed] at held
      obtain ⟨location, node⟩ | location := found
      · rfl
      · contradiction

theorem contains_iff_node (leads : tree.fileLocation? path = some location) :
    tree.contains path = (tree.node? location).isSome := by
  have placed := (place_of_file_location leads).2
  rw [contains, placed, placeAt]
  cases tree.node? location <;> rfl

end Walks

/-! Changes of one file. -/

section Changes

variable {tree after : FileTree} {location : Location} {path : String} {content : FileContent}

theorem same_directories_put (content : FileContent)
    (free : tree.node? location ≠ some .directory) :
    SameDirectories tree (tree.put location (.file content)) where
  here := rfl
  directories other := by
    by_cases same : other = location
    · subst same
      simp [node_put_self tree (.file content) (inner_of_no_directory free), free]
    · rw [node_put_other tree (.file content) same]

theorem same_directories_erase (free : tree.node? location ≠ some .directory) :
    SameDirectories tree (tree.erase location) where
  here := rfl
  directories other := by
    by_cases same : other = location
    · subst same
      simp [node_erase_self tree (inner_of_no_directory free), free]
    · rw [node_erase_other tree same]

theorem file_location_of_writable (free : tree.writable path = .ok location) :
    tree.fileLocation? path = some location := by
  unfold writable at free
  unfold fileLocation? place
  cases checked : check path with
  | error fault =>
      rw [checked] at free
      contradiction
  | ok done =>
      simp only [checked, bind, Except.bind] at free ⊢
      cases walked : tree.walk (tree.start path) (dropSlashes (Path.names path)) with
      | error fault =>
          rw [walked] at free
          contradiction
      | ok found =>
          have file : found.file? = some location ∧
              dropSlashes (Path.names path) = Path.names path := by
            rw [walked] at free
            obtain ⟨other, _ | content⟩ | other := found
            · contradiction
            all_goals
              simp only at free
              split at free
              · rename_i whole
                exact ⟨congrArg some (Except.ok.inj free), whole⟩
              · contradiction
          rw [file.2] at walked
          rw [walked]
          exact file.1

theorem put_of_write (wrote : tree.write path content = .ok after) :
    ∃ location, tree.fileLocation? path = some location ∧
      after = tree.put location (.file content) := by
  unfold write at wrote
  cases free : tree.writable path with
  | error fault =>
      rw [free] at wrote
      contradiction
  | ok location =>
      rw [free] at wrote
      exact ⟨location, file_location_of_writable free, (Except.ok.inj wrote).symm⟩

/-- What an interruption leaves of a file was written whole, or the tree is as it was. -/
theorem write_with_cases (tree : FileTree) (path : String) (content : FileContent)
    (interruption : Option Interruption) :
    (tree.writeWith path content interruption).2 = tree ∨
      ∃ held, tree.write path held = .ok (tree.writeWith path content interruption).2 := by
  have settled (result : Except FileFault Unit) (held : FileContent) :
      (tree.settle result (tree.write path held)).2 = tree ∨
        ∃ held', tree.write path held' = .ok (tree.settle result (tree.write path held)).2 := by
    cases wrote : tree.write path held with
    | error fault => exact .inl rfl
    | ok after => exact .inr ⟨held, wrote⟩
  match interruption with
  | none => exact settled _ content
  | some .unopened => exact .inl rfl
  | some (.brokenOff count) => exact settled _ (content.take count)

/-- A file that is written without a fault is whole. -/
theorem write_of_write_with {interruption : Option Interruption}
    (wrote : tree.writeWith path content interruption = (.ok (), after)) :
    tree.write path content = .ok after := by
  have settled (held : FileContent) (result : Except FileFault Unit)
      (ended : tree.settle result (tree.write path held) = (.ok (), after)) :
      result = .ok () ∧ tree.write path held = .ok after := by
    cases write : tree.write path held with
    | error fault =>
        rw [write] at ended
        cases ended
    | ok written =>
        rw [write] at ended
        obtain ⟨rfl, rfl⟩ := Prod.mk.inj ended
        exact ⟨rfl, rfl⟩
  match interruption with
  | none => exact (settled content _ wrote).2
  | some .unopened => cases wrote
  | some (.brokenOff count) => cases (settled _ _ wrote).1

theorem erase_of_remove (removed : tree.remove path = .ok after) :
    ∃ location, tree.fileLocation? path = some location ∧ after = tree.erase location := by
  unfold remove at removed
  unfold fileLocation?
  cases placed : tree.place path with
  | error fault =>
      rw [placed] at removed
      contradiction
  | ok found =>
      rw [placed] at removed
      obtain ⟨location, _ | content⟩ | location := found
      · contradiction
      · exact ⟨location, rfl, (Except.ok.inj removed).symm⟩
      · contradiction

section Clear

variable {stale : String}

theorem apart_of_absent (leads : tree.fileLocation? path = some location)
    (held : tree.node? location = some (.file content)) (absent : tree.contains stale = false) :
    tree.fileLocation? path ≠ tree.fileLocation? stale := by
  intro meets
  have present := contains_iff_node (meets.symm.trans leads)
  rw [absent, held] at present
  contradiction

/-- A removed file takes with it what another path led to if that was the same file. -/
theorem kept_of_remove (leads : tree.fileLocation? path = some location)
    (held : tree.node? location = some (.file content)) (removed : tree.remove stale = .ok after) :
    after.contains stale = false ∧
      if tree.fileLocation? path = tree.fileLocation? stale then after.contains path = false
      else after.read path = .ok content := by
  obtain ⟨other, staleLeads, rfl⟩ := erase_of_remove removed
  have free := (place_of_file_location staleLeads).1
  have same := same_directories_erase free
  have gone := node_erase_self tree (inner_of_no_directory free)
  have staleAfter := (file_location_of_same same stale).trans staleLeads
  have pathAfter := (file_location_of_same same path).trans leads
  refine ⟨by rw [contains_iff_node staleAfter, gone]; rfl, ?_⟩
  by_cases meets : location = other
  · subst meets
    rw [if_pos (leads.trans staleLeads.symm), contains_iff_node pathAfter, gone]
    rfl
  · have apart : tree.fileLocation? path ≠ tree.fileLocation? stale := by
      rw [leads, staleLeads]
      exact fun same => meets (Option.some.inj same)
    rw [if_neg apart]
    exact read_of_node pathAfter ((node_erase_other tree meets).trans held)

/-- A file is written, and then another one is removed if it is there. The other path leads nowhere
then, and the first one to what was written, unless both lead to one file, which is gone. -/
theorem kept_of_write_remove {written : FileTree} (wrote : tree.write path content = .ok written)
    (cleared : (written.contains stale = false ∧ after = written) ∨
      written.remove stale = .ok after) :
    after.contains stale = false ∧
      if tree.fileLocation? path = tree.fileLocation? stale then after.contains path = false
      else after.read path = .ok content := by
  obtain ⟨location, leads, rfl⟩ := put_of_write wrote
  have free := (place_of_file_location leads).1
  have same := same_directories_put content free
  have held := node_put_self tree (.file content) (inner_of_no_directory free)
  have writtenLeads := (file_location_of_same same path).trans leads
  rw [← file_location_of_same same path, ← file_location_of_same same stale]
  rcases cleared with ⟨absent, rfl⟩ | removed
  · rw [if_neg (apart_of_absent writtenLeads held absent)]
    exact ⟨absent, read_of_node writtenLeads held⟩
  · exact kept_of_remove writtenLeads held removed

end Clear

end Changes

/-! Files that stay, whatever becomes of the directories. -/

def SameFilesBut (changed : Option Location) (before after : FileTree) : Prop :=
  ∀ location, changed ≠ some location → ∀ content,
    after.node? location = some (.file content) ↔ before.node? location = some (.file content)

section Stay

variable {tree before after : FileTree} {location : Location} {path : String}
  {content : FileContent}

theorem SameFilesBut.refl (changed : Option Location) (tree : FileTree) :
    SameFilesBut changed tree tree := fun _ _ _ => Iff.rfl

theorem SameFilesBut.after_same {middle : FileTree} {changed : Option Location}
    (same : SameFilesBut none before middle) (later : SameFilesBut changed middle after) :
    SameFilesBut changed before after := fun location apart content =>
  (later location apart content).trans (same location (by simp) content)

/-- A directory is only put where nothing is. -/
theorem same_files_put_directory (absent : tree.node? location = none) :
    SameFilesBut none tree (tree.put location .directory) := by
  intro other _ content
  by_cases same : other = location
  · subst same
    have inner := inner_of_no_directory (by rw [absent]; simp : tree.node? other ≠ some .directory)
    simp [node_put_self tree .directory inner, absent]
  · rw [node_put_other tree .directory same]

theorem same_files_make_along (names : List String) (tree : FileTree) (location : Location) :
    SameFilesBut none tree (tree.makeAlong location names).2 := by
  induction names generalizing tree location with
  | nil => exact .refl none tree
  | cons name rest induction =>
      rw [makeAlong]
      split
      · exact induction tree _
      · exact .refl none tree
      · rename_i absent
        exact (same_files_put_directory absent).after_same (induction _ _)

theorem same_files_make_directories (tree : FileTree) (path : String) :
    SameFilesBut none tree (tree.makeDirectories path).2 := by
  unfold makeDirectories
  split
  · exact .refl none tree
  · exact same_files_make_along _ tree _

/-- Writing changes what its path leads to, and nothing else. -/
theorem same_files_write (wrote : tree.write path content = .ok after) :
    SameFilesBut (after.fileLocation? path) tree after := by
  obtain ⟨location, leads, rfl⟩ := put_of_write wrote
  have same := same_directories_put content (place_of_file_location leads).1
  rw [file_location_of_same same, leads]
  intro other apart found
  have elsewhere : other ≠ location := fun meets => apart (congrArg some meets.symm)
  rw [node_put_other tree (.file content) elsewhere]

theorem same_files_write_with (tree : FileTree) (path : String) (content : FileContent)
    (interruption : Option Interruption) :
    SameFilesBut ((tree.writeWith path content interruption).2.fileLocation? path) tree
      (tree.writeWith path content interruption).2 := by
  rcases write_with_cases tree path content interruption with same | ⟨held, wrote⟩
  · rw [same]
    exact .refl _ tree
  · exact same_files_write wrote

end Stay

end FileTree

end CollectionTypes
