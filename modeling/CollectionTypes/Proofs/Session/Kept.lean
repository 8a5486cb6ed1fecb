import CollectionTypes.Proofs.Directory.Tree
import CollectionTypes.Proofs.Session.Runs
import CollectionTypes.Session.Commands

/-!
What the steps of a command do to the files of its session. Reading a configuration, credentials or
a document, signing in and selecting only talk; an output changes the file that its path leads to,
and no other. Steps that keep credentials are no part of this.
-/

namespace CollectionTypes

/-- The same tree, or with an output the same files but for the one that its path leads to. -/
def FileTree.KeptBut (output : Option String) (before after : FileTree) : Prop :=
  match output with
  | none => after = before
  | some path => SameFilesBut (after.fileLocation? path) before after

namespace Run

/-! Steps that only talk. -/

theorem only_talks_read_config (path : String) : OnlyTalks (readConfig path) :=
  only_talks_bind only_talks_get fun _ =>
    only_talks_bind (only_talks_or_fail _ _) fun _ => only_talks_or_fail _ _

theorem only_talks_load_config (path : Option String) : OnlyTalks (loadConfig path) := by
  cases path with
  | some path => exact only_talks_read_config path
  | none =>
      refine only_talks_bind only_talks_get fun session => ?_
      split
      · exact only_talks_read_config _
      · exact only_talks_pure _

theorem only_talks_load_credentials (path : String)
    (read : FileContent → Except ClientError Credentials) : OnlyTalks (loadCredentials path read) :=
  only_talks_bind only_talks_get fun _ =>
    only_talks_bind (only_talks_or_fail _ _) fun _ => only_talks_or_fail _ _

theorem only_talks_passphrase_or (source : SourceArguments) {askPassphrase : Run String}
    (asks : OnlyTalks askPassphrase) : OnlyTalks (passphraseOr source askPassphrase) := by
  unfold passphraseOr
  split
  · exact only_talks_pure _
  · exact asks

theorem only_talks_kept_credentials (source : SourceArguments) {askPassphrase : Run String}
    (asks : OnlyTalks askPassphrase) : OnlyTalks (keptCredentials source askPassphrase) := by
  refine only_talks_bind only_talks_get fun session => ?_
  split
  · exact only_talks_bind (only_talks_passphrase_or source asks) fun passphrase =>
      only_talks_load_credentials _ _
  · split
    · exact only_talks_load_credentials _ _
    · exact only_talks_pure _

theorem only_talks_partial_credentials (source : SourceArguments) (config : Config)
    {askPassphrase : Run String} (asks : OnlyTalks askPassphrase) :
    OnlyTalks (partialCredentials source config askPassphrase) := by
  unfold partialCredentials
  dsimp only
  split
  · exact only_talks_pure _
  · exact only_talks_bind (only_talks_kept_credentials source asks) fun _ => only_talks_pure _

theorem only_talks_sign_in (credentials : Credentials) : OnlyTalks (signIn credentials) :=
  only_talks_bind (only_talks_on_wire _) fun _ =>
    only_talks_bind (only_talks_or_fail _ _) fun _ => only_talks_pure _

theorem only_talks_load_document (path : String) : OnlyTalks (loadDocument path) :=
  only_talks_bind only_talks_get fun _ =>
    only_talks_bind (only_talks_or_fail _ _) fun _ =>
      only_talks_bind (only_talks_or_fail _ _) fun _ =>
        only_talks_bind (only_talks_note _ _) fun _ => only_talks_pure _

theorem only_talks_select (source : SourceArguments) (config : Config)
    (collections : List Collection) : OnlyTalks (select source config collections) := by
  have returned (selected : List Collection) :
      OnlyTalks (if selected.isEmpty then do note .warn "No collections selected"; pure selected
        else pure selected) := by
    split
    · exact only_talks_bind (only_talks_note _ _) fun _ => only_talks_pure _
    · exact only_talks_pure _
  unfold select
  split
  · exact only_talks_bind (only_talks_on_terminal _) fun _ =>
      only_talks_bind (only_talks_or_fail _ _) returned
  · exact only_talks_bind
      (only_talks_bind (only_talks_warn _) fun _ => only_talks_pure _) returned

/-! Steps that touch nothing but an output. -/

def FilesKeptBut {α : Type} (output : Option String) (action : Run α) : Prop :=
  ∀ session : Session, session.files.KeptBut output (action session).2.files

section Output

variable {α β : Type} {output : Option String} {path : String} {first : Run α} {next : α → Run β}

theorem kept_but_of_eq {before after : FileTree} (same : after = before) :
    before.KeptBut output after := by
  subst same
  cases output with
  | none => rfl
  | some path => exact .refl _ _

theorem files_kept_but_bind (talks : OnlyTalks first)
    (later : ∀ value, FilesKeptBut output (next value)) :
    FilesKeptBut output (first >>= next) := by
  intro session
  rcases begun : first session with ⟨_ | value, middle⟩
  · rw [bind_of_error begun]
    exact kept_but_of_eq (talks.files_kept.same_files begun)
  · rw [bind_of_ok begun, ← talks.files_kept.same_files begun]
    exact later value middle

theorem make_directories_session (failure : FileFault → Failure) (path : String)
    (session : Session) :
    (makeDirectories failure path session).2 =
      { session with files := (session.files.makeDirectories path).2 } := by
  rw [makeDirectories, bind_get]
  rcases session.files.makeDirectories path with ⟨_ | made, files⟩ <;> rfl

theorem files_kept_but_after_directories {action : Run α} (failure : FileFault → Failure)
    (parent : String) (later : FilesKeptBut (some path) action) :
    FilesKeptBut (some path) (do makeDirectories failure parent; action) := by
  intro session
  have same := FileTree.same_files_make_directories session.files parent
  have kept : (makeDirectories failure parent session).2.files =
      (session.files.makeDirectories parent).2 :=
    congrArg Session.files (make_directories_session failure parent session)
  rw [← kept] at same
  rcases made : makeDirectories failure parent session with ⟨_ | _, middle⟩
  · rw [made] at same
    rw [bind_of_error made]
    exact same.after_same (.refl _ _)
  · rw [made] at same
    rw [bind_of_ok made]
    exact same.after_same (later middle)

theorem files_kept_but_put_file (failure : FileFault → Failure) (path : String)
    (content : FileContent) (level : Log.Level) (text : String) :
    FilesKeptBut (some path) (do putFile failure path content; note level text) := by
  intro session
  have same : FileTree.SameFilesBut ((session.writeNext path content).2.fileLocation? path)
      session.files (session.writeNext path content).2 :=
    FileTree.same_files_write_with session.files path content _
  rw [← (put_file_files failure path content session).1] at same
  rcases begun : putFile failure path content session with ⟨_ | _, middle⟩
  · rw [begun] at same
    rw [bind_of_error begun]
    exact same
  · rw [begun] at same
    rw [bind_of_ok begun]
    exact same

theorem files_kept_but_write_file (path text : String) :
    FilesKeptBut (some path) (writeFile path text) := by
  have written := files_kept_but_put_file
    (fileFailure ("Failed to write output: " ++ Path.display path)) path (.text text) .info
    ("Wrote " ++ Text.Decimal.write text.utf8ByteSize ++ " bytes to " ++ path)
  unfold writeFile
  cases Path.directory? path with
  | none => exact written
  | some parent => exact files_kept_but_after_directories _ parent written

theorem files_kept_but_write_output (text : String) (output : Option String) :
    FilesKeptBut output (writeOutput text output) := by
  cases output with
  | none => exact fun session => files_kept_write text session
  | some path => exact files_kept_but_write_file path text

end Output

end Run

end CollectionTypes
