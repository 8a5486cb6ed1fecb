import CollectionTypes.Proofs.Directory.Confined
import CollectionTypes.Proofs.Session.Accepted

/-!
A generation writes all of its output or none. Everything that can go wrong before the output is
written comes before it in a run, and until then nothing changes but the files of credentials, no
directory is made and nothing is written to the standard output. What becomes of an output whose
writing fails, and of one that shares its file with credentials, is no part of this.
-/

namespace CollectionTypes.Run

/-! Steps that change no more than the files of some paths. -/

def Confined {α : Type} (paths : List String) (action : Run α) : Prop :=
  ∀ session : Session, session.files.ConfinedTo paths (action session).2.files ∧
    (action session).2.output = session.output

section Steps

variable {α β : Type} {paths : List String} {path : String}

theorem OnlyTalks.confined {action : Run α} (talks : OnlyTalks action) (paths : List String) :
    Confined paths action := by
  intro session
  rw [talks.files_kept session]
  exact ⟨.refl paths _, talks.same_output session⟩

theorem confined_bind {first : Run α} {next : α → Run β} (confined : Confined paths first)
    (later : ∀ value, Confined paths (next value)) : Confined paths (first >>= next) := by
  intro session
  obtain ⟨files, output⟩ := confined session
  rcases begun : first session with ⟨_ | value, middle⟩
  · rw [begun] at files output
    rw [bind_of_error begun]
    exact ⟨files, output⟩
  · rw [begun] at files output
    rw [bind_of_ok begun]
    obtain ⟨laterFiles, laterOutput⟩ := later value middle
    exact ⟨files.trans laterFiles, laterOutput.trans output⟩

theorem confined_change_files (failure : FileFault → Failure)
    {change : FileTree → Except FileFault FileTree}
    (within : ∀ {tree after}, change tree = .ok after → tree.ConfinedTo paths after) :
    Confined paths (changeFiles failure change) := by
  intro session
  cases made : change session.files with
  | error fault =>
      rw [change_files_error made]
      exact ⟨.refl paths _, rfl⟩
  | ok files =>
      rw [change_files_of_ok made]
      exact ⟨within made, rfl⟩

theorem confined_put_file (failure : FileFault → Failure) (member : path ∈ paths)
    (content : FileContent) : Confined paths (putFile failure path content) := by
  intro session
  obtain ⟨files, output⟩ := put_file_files failure path content session
  rw [files]
  exact ⟨FileTree.confined_of_write_with member content _, output⟩

theorem confined_save_content (member : path ∈ paths) (content : String) :
    Confined paths (saveContent path content) :=
  confined_put_file _ member _

theorem confined_save_plain (member : path ∈ paths) (credentials : Credentials) :
    Confined paths (savePlain path credentials) :=
  confined_bind (confined_save_content member _) fun _ => (only_talks_note _ _).confined paths

theorem confined_save_sealed (member : path ∈ paths) (credentials : Credentials)
    (passphrase : String) : Confined paths (saveSealed path credentials passphrase) :=
  confined_bind (only_talks_get.confined paths) fun _ =>
    confined_bind ((only_talks_or_fail _ _).confined paths) fun _ =>
      confined_bind (confined_save_content member _) fun _ => (only_talks_note _ _).confined paths

theorem confined_remove_stale (member : path ∈ paths) : Confined paths (removeStale path) := by
  refine confined_bind (only_talks_get.confined paths) fun session => ?_
  split
  · exact confined_bind (confined_change_files _ (FileTree.confined_of_remove member)) fun _ =>
      (only_talks_note _ _).confined paths
  · exact (only_talks_pure _).confined paths

end Steps

def credentialPaths (source : SourceArguments) : List String :=
  [source.credentialsFile, source.encryptedCredentialsFile]

section Sources

variable (source : SourceArguments) (config : Config)

theorem confined_save_credentials (credentials : Credentials) {askPassphrase : Run String}
    (asks : OnlyTalks askPassphrase) :
    Confined (credentialPaths source) (saveCredentials source credentials askPassphrase) := by
  have plain : source.credentialsFile ∈ credentialPaths source := by simp [credentialPaths]
  have hidden : source.encryptedCredentialsFile ∈ credentialPaths source := by
    simp [credentialPaths]
  unfold saveCredentials
  split
  · refine confined_bind ((only_talks_passphrase_or source asks).confined _) fun passphrase => ?_
    exact confined_bind (confined_save_sealed hidden credentials passphrase) fun _ =>
      confined_remove_stale plain
  · exact confined_bind (confined_save_plain plain credentials) fun _ =>
      confined_remove_stale hidden

theorem confined_keep_and_list (accepted : Credentials × Client) :
    Confined (credentialPaths source) (keepAndList source accepted) := by
  have lists : OnlyTalks (do
      orFail (clientFailure "Failed to fetch collections")
        (← onWire accepted.2.fetchCollections)) :=
    only_talks_bind (only_talks_on_wire _) fun _ => only_talks_or_fail _ _
  unfold keepAndList
  split
  · exact confined_bind (confined_save_credentials source accepted.1 (only_talks_ask _)) fun _ =>
      lists.confined _
  · exact lists.confined _

theorem confined_load_collections :
    Confined (credentialPaths source) (loadCollections source config) := by
  cases schema : source.schema with
  | some path =>
      rw [loadCollections, schema]
      exact (only_talks_load_document path).confined _
  | none =>
      rw [load_eq_accept schema]
      exact confined_bind ((only_talks_accept source config).confined _)
        (confined_keep_and_list source)

end Sources

/-! A generation up to its output. -/

structure Draft where
  settings : Settings
  collections : List Collection
  selected : List Collection

def Draft.text (draft : Draft) : String :=
  draft.settings.generator.generateCollections draft.selected draft.collections

def announce (draft : Draft) : Run Unit := do
  let generator := draft.settings.generator
  let ⟨models, diagnostics⟩ := generator.interpret draft.selected draft.collections
  warn (diagnostics.map (·.message))
  if !diagnostics.isEmpty then
    note .warn (Text.Decimal.write diagnostics.length ++ " field(s) degraded to permissive types")
  note .info (generatingMessage draft.settings.target models)
  warn ((generator.warnings models).map (·.message))

/-- A generation without its last step. -/
def draft (config : Option String) (source : SourceArguments) (arguments : OutputArguments) :
    Run Draft := do
  let config ← loadConfig config
  let settings ← orFail id (Settings.resolve arguments config)
  let collections ← loadCollections source config
  let selected ← select source config collections
  announce ⟨settings, collections, selected⟩
  return ⟨settings, collections, selected⟩

theorem command_eq_draft (quiet : Bool) (config : Option String) (source : SourceArguments)
    (arguments : OutputArguments) :
    command { quiet, config, command := .generate source arguments } =
      draft config source arguments >>= fun whole =>
        writeOutput whole.text whole.settings.output := by
  simp only [draft, announce, command, generate, bind_assoc, pure_bind]
  refine bind_congr fun config => bind_congr fun settings => bind_congr fun collections =>
    bind_congr fun selected => bind_congr fun _ => ?_
  -- The warning about degraded fields is a branch, and what follows it stands in both of them.
  split
  all_goals
    simp only [bind_assoc]
    rfl

/-- A draft has its settings, its collections and its selection from what a session is told and
finds. -/
inductive Draft.ComesFrom (path : Option String) (source : SourceArguments)
    (arguments : OutputArguments) (session : Session) (whole : Draft) : Prop
  | intro {config : Config} {configured listed chosen : Session}
      (configuration : loadConfig path session = (.ok config, configured))
      (settings : Settings.resolve arguments config = .ok whole.settings)
      (collections : loadCollections source config configured = (.ok whole.collections, listed))
      (selection : select source config whole.collections listed = (.ok whole.selected, chosen))

/-- The whole of a text is where it belongs: alone in its file, or behind what was written to the
standard output before. -/
def Delivered (text : String) (before after : Session) : Option String → Prop
  | some path => after.files.read path = .ok (.text text) ∧ after.output = before.output
  | none => after.output = before.output ++ text

section Stages

variable {path : Option String} {source : SourceArguments} {arguments : OutputArguments}
  {session middle after : Session} {whole : Draft} {text : String}

theorem only_talks_announce (whole : Draft) : OnlyTalks (announce whole) := by
  have said {progress : String} {texts : List String} :
      OnlyTalks (do note .info progress; warn texts) :=
    only_talks_bind (only_talks_note _ _) fun _ => only_talks_warn _
  refine only_talks_bind (only_talks_warn _) fun _ => ?_
  dsimp only
  split
  · exact only_talks_bind (only_talks_note _ _) fun _ => said
  · exact said

theorem confined_draft (path : Option String) (source : SourceArguments)
    (arguments : OutputArguments) :
    Confined (credentialPaths source) (draft path source arguments) := by
  refine confined_bind ((only_talks_load_config path).confined _) fun config => ?_
  refine confined_bind ((only_talks_or_fail _ _).confined _) fun settings => ?_
  refine confined_bind (confined_load_collections source config) fun collections => ?_
  refine confined_bind ((only_talks_select source config collections).confined _) fun selected => ?_
  exact confined_bind ((only_talks_announce _).confined _) fun _ => (only_talks_pure _).confined _

theorem draft_comes_from (drafted : draft path source arguments session = (.ok whole, after)) :
    whole.ComesFrom path source arguments session := by
  obtain ⟨config, configured, configuration, rest⟩ := steps_of_bind drafted
  obtain ⟨settings, _, resolved, collected⟩ := steps_of_bind rest
  obtain ⟨resolution, rfl⟩ := or_fail_ok resolved
  obtain ⟨collections, listed, loaded, chosen⟩ := steps_of_bind collected
  obtain ⟨selected, _, selection, announced⟩ := steps_of_bind chosen
  obtain ⟨_, _, _, returned⟩ := steps_of_bind announced
  cases returned
  exact .intro configuration resolution loaded selection

theorem written_of_put {path : String} {content : FileContent} {level : Log.Level}
    {message : String} (failure : FileFault → Failure)
    (ran : (do putFile failure path content; note level message) session = (.ok (), after)) :
    after.files.read path = .ok content ∧ after.output = session.output := by
  obtain ⟨_, changed, wrote, noted⟩ := steps_of_bind ran
  have sameStart := (put_file_files failure path content session).2
  have talks := only_talks_note level message
  have sameOutput := talks.same_output changed
  rw [wrote] at sameStart
  rw [noted] at sameOutput
  rw [talks.files_kept.same_files noted]
  exact ⟨FileTree.read_of_write (put_file_ok wrote), sameOutput.trans sameStart⟩

theorem delivered_of_write_output {output : Option String}
    (wrote : writeOutput text output session = (.ok (), after)) :
    Delivered text session after output := by
  cases output with
  | none =>
      cases wrote
      rfl
  | some path =>
      rw [writeOutput, writeFile] at wrote
      cases directory : Path.directory? path with
      | none =>
          rw [directory] at wrote
          exact written_of_put _ wrote
      | some parent =>
          rw [directory] at wrote
          obtain ⟨_, changed, made, rest⟩ := steps_of_bind wrote
          have sameOutput := congrArg Session.output (make_directories_session
            (fileFailure ("Failed to create directory: " ++ Path.display parent)) parent session)
          rw [made] at sameOutput
          obtain ⟨held, written⟩ := written_of_put _ rest
          exact ⟨held, written.trans sameOutput⟩

end Stages

structure AllOrNothing (quiet : Bool) (path : Option String) (source : SourceArguments)
    (arguments : OutputArguments) (session : Session) : Prop where
  /-- Writing the output is the last step, and a draft is all that comes before it. -/
  last : command { quiet, config := path, command := .generate source arguments } =
    draft path source arguments >>= fun whole => writeOutput whole.text whole.settings.output
  /-- A run that fails before that writes nothing to the standard output and makes no directory, and
  whatever path the output was meant for finds what it found before, unless credentials are kept
  in the very file it leads to. -/
  stops : ∀ failure after, draft path source arguments session = (.error failure, after) →
    command { quiet, config := path, command := .generate source arguments } session =
        (.error failure, after) ∧
      after.output = session.output ∧
      session.files.SameDirectories after.files ∧
      ∀ output, session.files.LeadsApart (credentialPaths source) output →
        session.files.FindsSame after.files output
  /-- A run that succeeds has written the whole text for its settings, collections and selection. -/
  completes : ∀ after,
    command { quiet, config := path, command := .generate source arguments } session =
        (.ok (), after) →
    ∃ whole : Draft, whole.ComesFrom path source arguments session ∧
      Delivered whole.text session after whole.settings.output

/-- Every generation writes the whole of its output or none of it, whatever its arguments,
configuration and files are, whatever the user answers and whatever the server replies. -/
theorem generation_all_or_nothing (quiet : Bool) (path : Option String) (source : SourceArguments)
    (arguments : OutputArguments) (session : Session) :
    AllOrNothing quiet path source arguments session := by
  have last := command_eq_draft quiet path source arguments
  refine ⟨last, fun failure after failed => ?stops, fun after ran => ?completes⟩
  case stops =>
    have confined := confined_draft path source arguments session
    rw [failed] at confined
    obtain ⟨files, output⟩ := confined
    refine ⟨?_, output, files.toSameDirectories, fun output apart =>
      FileTree.finds_same_of_apart files apart⟩
    rw [last, bind_of_error failed]
  case completes =>
    rw [last] at ran
    obtain ⟨whole, drafted, made, wrote⟩ := steps_of_bind ran
    have confined := confined_draft path source arguments session
    rw [made] at confined
    have delivered := delivered_of_write_output wrote
    refine ⟨whole, draft_comes_from made, ?_⟩
    cases output : whole.settings.output with
    | none =>
        rw [output] at delivered
        exact Eq.trans delivered (congrArg (· ++ whole.text) confined.2)
    | some target =>
        rw [output] at delivered
        exact ⟨delivered.1, delivered.2.trans confined.2⟩

def outputBefore : FileTree := { entries := [(["out.ts"], .file (.text "old"))] }

theorem grantee_lists_nothing {wire : Wire}
    (answered : wire.server (grantee.pageRequest "t" 1 :: wire.sent) = .answer 403 "") :
    ∃ error next, grantee.fetchCollections wire = (.error error, next) := by
  have refused : grantee.askPage "t" 1 wire = _ :=
    Wire.retry_from_lasting rfl (Wire.ask_of_refusal Listing.ofText rfl answered (by decide))
  have token : grantee.token = some "t" := rfl
  rw [Client.fetch_collections_eq, token]
  simp only [Client.fetch_from_failed refused]
  exact ⟨_, _, rfl⟩

/-- The credentials are accepted and saved, and then the collections are not listed. -/
theorem granting_unlisted : ∃ failure after,
    draft none visiting { output := some "out.ts" } { granting with files := outputBefore } =
        (.error failure, after) ∧
      after.files.read "credentials.env" = .ok (.text Client.visitor.save) := by
  let saved : Session := (savePlain "credentials.env" Client.visitor (granted outputBefore)).2
  obtain ⟨error, wire, unlisted⟩ :
      ∃ error next, grantee.fetchCollections saved.wire = (.error error, next) :=
    grantee_lists_nothing rfl
  let stop : Failure := clientFailure "Failed to fetch collections" error
  have listed : onWire grantee.fetchCollections saved =
      (.ok (.error error), { saved with wire := wire }) := by
    rw [onWire, unlisted]
  have kept : keepAndList visiting (Client.visitor, grantee) (granted outputBefore) =
      (.error stop, { saved with wire := wire }) :=
    (bind_of_ok rfl).trans (bind_of_ok listed)
  have loaded : loadCollections visiting {} { granting with files := outputBefore } =
      (.error stop, { saved with wire := wire }) := by
    rw [load_eq_accept rfl, bind_of_ok (granting_accepts _ _)]
    exact kept
  have drafted : draft none visiting { output := some "out.ts" }
      { granting with files := outputBefore } = (.error stop, { saved with wire := wire }) :=
    (bind_of_ok rfl).trans ((bind_of_ok rfl).trans (bind_of_error loaded))
  exact ⟨stop, _, drafted, rfl⟩

/-- The run that ends there has saved the credentials, and the output is the one from before. -/
theorem generation_all_or_nothing_unlisted : ∃ failure after,
    command { command := .generate visiting { output := some "out.ts" } }
        { granting with files := outputBefore } = (.error failure, after) ∧
      after.output = "" ∧
      after.files.read "credentials.env" = .ok (.text Client.visitor.save) ∧
      (after.files.read "out.ts").toOption = some (.text "old") := by
  obtain ⟨failure, after, drafted, saved⟩ := granting_unlisted
  have whole := generation_all_or_nothing false none visiting { output := some "out.ts" }
    { granting with files := outputBefore }
  obtain ⟨failed, silent, _, found⟩ := whole.stops failure after drafted
  have apart : outputBefore.LeadsApart (credentialPaths visiting) "out.ts" := by
    intro location leads other member
    cases leads
    simp only [credentialPaths, List.mem_cons, List.not_mem_nil, or_false] at member
    rcases member with rfl | rfl <;> exact fun found => absurd found (by decide)
  exact ⟨failure, after, failed, silent, saved, (found "out.ts" apart).content⟩

end CollectionTypes.Run
