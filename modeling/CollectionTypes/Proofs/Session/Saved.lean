import CollectionTypes.Proofs.Credentials.Merged
import CollectionTypes.Proofs.Credentials.Plain
import CollectionTypes.Proofs.Directory.Tree
import CollectionTypes.Proofs.Session.Runs
import CollectionTypes.Session.Credentials

/-!
Credentials that are saved in plain form are what a later run finds, whatever files were there
before, as long as the two paths do not lead to one file: then what was written is removed at once.
Sealed files are no part of this, and neither is what a run does between saving and finding.
-/

namespace CollectionTypes

/-- Arguments that name the files that others name, and say nothing about credentials. -/
def SourceArguments.withFilesOf (later kept : SourceArguments) : SourceArguments :=
  { later with
    host := none
    email := none
    password := none
    credentialsFile := kept.credentialsFile
    encryptedCredentialsFile := kept.encryptedCredentialsFile }

namespace Run

variable {arguments : SourceArguments} {credentials : Credentials} {askPassphrase : Run String}
  {session after : Session}

/-! Saving. -/

theorem save_plain_ok {path : String}
    (saved : savePlain path credentials session = (.ok (), after)) :
    session.files.write path (.text credentials.save) = .ok after.files := by
  obtain ⟨_, middle, written, noted⟩ := steps_of_bind saved
  rw [(only_talks_note _ _).files_kept.same_files noted]
  exact put_file_ok written

theorem remove_stale_ok {path : String} (cleared : removeStale path session = (.ok (), after)) :
    (session.files.contains path = false ∧ after.files = session.files) ∨
      session.files.remove path = .ok after.files := by
  rw [removeStale, bind_get] at cleared
  cases present : session.files.contains path with
  | false =>
      rw [present] at cleared
      cases cleared
      exact .inl ⟨rfl, rfl⟩
  | true =>
      rw [present, if_pos rfl] at cleared
      obtain ⟨_, middle, removed, noted⟩ := steps_of_bind cleared
      rw [(only_talks_note _ _).files_kept.same_files noted]
      exact .inr (change_files_ok removed)

theorem save_credentials_plain_ok (plain : arguments.encrypt = false)
    (saved : saveCredentials arguments credentials askPassphrase session = (.ok (), after)) :
    ∃ written, session.files.write arguments.credentialsFile (.text credentials.save) =
        .ok written ∧
      ((written.contains arguments.encryptedCredentialsFile = false ∧ after.files = written) ∨
        written.remove arguments.encryptedCredentialsFile = .ok after.files) := by
  rw [saveCredentials, plain] at saved
  obtain ⟨_, middle, written, cleared⟩ := steps_of_bind saved
  exact ⟨middle.files, save_plain_ok written, remove_stale_ok cleared⟩

/-! Finding. -/

theorem kept_credentials_of_plain {content : FileContent}
    (noSealed : session.files.contains arguments.encryptedCredentialsFile = false)
    (held : session.files.read arguments.credentialsFile = .ok content)
    (loads : Credentials.load session.environment content = .ok credentials) :
    keptCredentials arguments askPassphrase session = (.ok credentials, session) := by
  have present := FileTree.contains_of_read held
  rw [keptCredentials, bind_get, noSealed, present]
  simp only [Bool.false_eq_true, if_false, if_true]
  rw [loadCredentials, bind_get, held]
  have opened : orFail (loadFailure arguments.credentialsFile ∘ .io)
      (.ok content : Except FileFault FileContent) session = (.ok content, session) := rfl
  rw [bind_of_ok opened, loads]
  rfl

theorem partial_credentials_of_kept {later : SourceArguments} {config : Config}
    (complete : credentials.isComplete = true) (unsaid : later.credentials = {})
    (kept : keptCredentials later askPassphrase session = (.ok credentials, session)) :
    partialCredentials later config askPassphrase session = (.ok credentials, session) := by
  have lacking : (Credentials.isComplete {}) = false := by decide
  unfold partialCredentials
  simp only [unsaid, lacking, Bool.false_eq_true, if_false]
  rw [bind_of_ok kept, Credentials.none_or_else, Credentials.or_else_of_complete complete]
  rfl

/-- After credentials are saved in plain form no sealed file is left. Unless the two paths lead to
one file, the plain one is loaded as the credentials, and a later run that names the same files, and
is told nothing else, works with them; if they do, no file is left at all. -/
theorem plain_credentials_survive (plain : arguments.encrypt = false)
    (complete : credentials.isComplete = true)
    (saved : saveCredentials arguments credentials askPassphrase session = (.ok (), after)) :
    after.files.contains arguments.encryptedCredentialsFile = false ∧
    if session.files.fileLocation? arguments.credentialsFile =
        session.files.fileLocation? arguments.encryptedCredentialsFile then
      after.files.contains arguments.credentialsFile = false
    else
      (∃ content, after.files.read arguments.credentialsFile = .ok content ∧
        ∀ environment, Credentials.load environment content = .ok credentials) ∧
      ∀ (later : SourceArguments) (config : Config) (ask : Run String) (next : Session),
        next.files = after.files →
        partialCredentials (later.withFilesOf arguments) config ask next =
          (.ok credentials, next) := by
  obtain ⟨written, wrote, cleared⟩ := save_credentials_plain_ok plain saved
  obtain ⟨noSealed, kept⟩ := FileTree.kept_of_write_remove wrote cleared
  refine ⟨noSealed, ?_⟩
  split
  · rename_i meets
    rwa [if_pos meets] at kept
  · rename_i apart
    rw [if_neg apart] at kept
    have loads (environment : EnvFile.Environment) :
        Credentials.load environment (.text credentials.save) = .ok credentials :=
      Credentials.load_save environment credentials
    refine ⟨⟨_, kept, loads⟩, fun later config ask next same => ?_⟩
    apply partial_credentials_of_kept complete rfl
    rw [← same] at noSealed kept
    exact kept_credentials_of_plain noSealed kept (loads _)

def visitor : Credentials := ⟨"http://localhost", "a@b.c", "pass"⟩

/-- With a sealed file from before, which is removed, a later run finds the plain one. -/
theorem plain_credentials_survive_sealed :
    ∃ after, saveCredentials {} visitor (pure "")
        (offline { entries := [(["credentials.enc.env"], .file (.text "SALT=\n"))] }) =
          (.ok (), after) ∧
      partialCredentials {} {} (pure "") after = (.ok visitor, after) := by
  refine ⟨_, rfl, ?_⟩
  have saved : saveCredentials {} visitor (pure "")
      (offline { entries := [(["credentials.enc.env"], .file (.text "SALT=\n"))] }) =
        (.ok (), _) := rfl
  have survived := plain_credentials_survive (by rfl) (by decide) saved
  rw [if_neg (by decide)] at survived
  exact survived.2.2 {} {} (pure "") _ rfl

/-- With one path for both files, what was saved is gone, and a later run finds nothing. -/
theorem plain_credentials_lost :
    let arguments : SourceArguments :=
      { credentialsFile := "c.env", encryptedCredentialsFile := "c.env" }
    visitor.isComplete = true ∧
    ∃ after, saveCredentials arguments visitor (pure "") (offline {}) = (.ok (), after) ∧
      after.files.contains "c.env" = false ∧
      partialCredentials arguments {} (pure "") after = (.ok {}, after) :=
  ⟨by decide, _, rfl, by decide, rfl⟩

end Run

end CollectionTypes
