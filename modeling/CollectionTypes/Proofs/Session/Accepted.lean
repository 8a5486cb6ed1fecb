import CollectionTypes.Proofs.Client.Token
import CollectionTypes.Proofs.Directory.Confined
import CollectionTypes.Proofs.Session.Kept

/-!
Files wait for the server. A run that takes its collections from a server touches no file before the
credentials are accepted, whatever fails on the way there, and a plain file that cannot be written,
or only in part, costs no other. A run that takes them from a document has no credentials to keep;
it touches the output that it is asked for, and the directories on the way to it. What is saved in
the end, what is left of a plain file whose writing breaks off, and what becomes of a sealed file
that cannot be written, is no part of this.
-/

namespace CollectionTypes

/-- The reply that accepts credentials: to a request that signs in with them, a success with a
token. -/
def Accepted (credentials : Credentials) (wire : Wire) : Prop :=
  (∃ earlier, wire.sent =
    (Client.forHost credentials.host).signInRequest credentials :: earlier) ∧
  ∃ status < Wire.failureCode, ∃ body token, wire.server wire.sent = .answer status body ∧
    Client.tokenOfBody body = .ok token ∧ token ≠ ""

namespace Run

/-! The parts of a command. -/

structure Prepared where
  config : Config
  /-- Where the output goes, if it goes to a file. -/
  output : Option String

def prepare (invocation : Invocation) : Run Prepared := do
  let config ← loadConfig invocation.config
  match invocation.command with
  | .generate _ arguments => do
      let settings ← orFail id (Settings.resolve arguments config)
      return ⟨config, settings.output⟩
  | .inspect _ => return ⟨config, none⟩

def accept (source : SourceArguments) (config : Config) : Run (Credentials × Client) := do
  let known ← partialCredentials source config (ask (Dialogue.askPassphrase false))
  let credentials ← ask (Dialogue.completeCredentials known)
  let client ← signIn credentials
  return (credentials, client)

def keepAndList (source : SourceArguments) (accepted : Credentials × Client) :
    Run (List Collection) := do
  if source.saveCredentials then
    saveCredentials source accepted.1 (ask (Dialogue.askPassphrase true))
  orFail (clientFailure "Failed to fetch collections") (← onWire accepted.2.fetchCollections)

theorem fetch_eq_accept (source : SourceArguments) (config : Config) :
    fetch source config = accept source config >>= keepAndList source := by
  simp only [accept, bind_assoc, pure_bind]
  rfl

theorem only_talks_prepare (invocation : Invocation) : OnlyTalks (prepare invocation) := by
  refine only_talks_bind (only_talks_load_config invocation.config) fun config => ?_
  split
  · exact only_talks_bind (only_talks_or_fail _ _) fun settings => only_talks_pure _
  · exact only_talks_pure _

theorem only_talks_accept (source : SourceArguments) (config : Config) :
    OnlyTalks (accept source config) :=
  only_talks_bind (only_talks_partial_credentials source config (only_talks_ask _)) fun _ =>
    only_talks_bind (only_talks_ask _) fun credentials =>
      only_talks_bind (only_talks_sign_in credentials) fun _ => only_talks_pure _

/-! Commands, and what they come to when they stop. -/

section Stops

variable {invocation : Invocation} {source : SourceArguments} {config : Config} {known : Prepared}
  {session prepared after : Session} {failure : Failure} {credentials : Credentials}
  {client : Client}

theorem command_of_unprepared (failed : prepare invocation session = (.error failure, after)) :
    command invocation session = (.error failure, after) := by
  obtain ⟨quiet, path, asked⟩ := invocation
  rcases stops_of_bind failed with unloaded | ⟨config, middle, loaded, rest⟩
  · exact bind_of_error unloaded
  · rw [command, bind_of_ok loaded]
    cases asked with
    | inspect source => cases rest
    | generate source arguments =>
        rcases stops_of_bind rest with unresolved | ⟨settings, later, resolved, returned⟩
        · exact bind_of_error unresolved
        · cases returned

/-- Once all is settled, a command looks for collections and makes an output of them. -/
theorem command_of_prepared (settled : prepare invocation session = (.ok known, prepared)) :
    ∃ finish : List Collection → Run Unit,
      (∀ collections, FilesKeptBut known.output (finish collections)) ∧
      command invocation session =
        (loadCollections invocation.command.source known.config >>= finish) prepared := by
  obtain ⟨quiet, path, asked⟩ := invocation
  obtain ⟨config, middle, loaded, rest⟩ := steps_of_bind settled
  unfold command
  rw [bind_of_ok loaded]
  cases asked with
  | inspect source =>
      cases rest
      refine ⟨_, fun collections => ?_, rfl⟩
      refine files_kept_but_bind (only_talks_select _ _ _) fun selected => ?_
      exact files_kept_but_bind (only_talks_warn _) fun _ => files_kept_but_write_output _ none
  | generate source arguments =>
      obtain ⟨settings, later, resolved, returned⟩ := steps_of_bind rest
      obtain ⟨resolution, rfl⟩ := or_fail_ok resolved
      cases returned
      refine ⟨_, fun collections => ?_, bind_of_ok resolved⟩
      refine files_kept_but_bind (only_talks_select _ _ _) fun selected => ?_
      refine files_kept_but_bind (only_talks_warn _) fun _ => ?_
      have written {progress : String} {texts : List String} {text : String} :
          FilesKeptBut settings.output (do
            note .info progress
            warn texts
            writeOutput text settings.output) :=
        files_kept_but_bind (only_talks_note _ _) fun _ =>
          files_kept_but_bind (only_talks_warn _) fun _ => files_kept_but_write_output _ _
      dsimp only
      split
      · exact files_kept_but_bind (only_talks_note _ _) fun _ => written
      · exact written

theorem command_of_unloaded (settled : prepare invocation session = (.ok known, prepared))
    (failed : loadCollections invocation.command.source known.config prepared =
      (.error failure, after)) :
    command invocation session = (.error failure, after) := by
  obtain ⟨finish, _, same⟩ := command_of_prepared settled
  rw [same, bind_of_error failed]

theorem load_eq_accept (fromServer : source.schema = none) :
    loadCollections source config = accept source config >>= keepAndList source := by
  rw [loadCollections, fromServer]
  exact fetch_eq_accept source config

/-- Saving comes first of all that follows, and a file that cannot be written ends it. -/
theorem load_of_unsaved {fault : FileFault} (fromServer : source.schema = none)
    (saves : source.saveCredentials = true) (plain : source.encrypt = false)
    (accepted : accept source config session = (.ok (credentials, client), after))
    (unwritten : (after.writeNext source.credentialsFile (.text credentials.save)).1 =
      .error fault) :
    ∃ stopped, loadCollections source config session =
        (.error (saveFailure source.credentialsFile (.io fault)), stopped) ∧
      stopped.files = (after.writeNext source.credentialsFile (.text credentials.save)).2 := by
  obtain ⟨stopped, broken, files⟩ :=
    put_file_error (saveFailure source.credentialsFile ∘ .io) unwritten
  have unsaved : saveCredentials source credentials (ask (Dialogue.askPassphrase true)) after =
      (.error (saveFailure source.credentialsFile (.io fault)), stopped) := by
    rw [saveCredentials, plain]
    exact bind_of_error (bind_of_error broken)
  refine ⟨stopped, ?_, files⟩
  rw [load_eq_accept fromServer, bind_of_ok accepted, keepAndList, saves]
  exact bind_of_error unsaved

theorem sign_in_asks {outcome : Except ClientError Unit} {wire : Wire}
    (ran : Client.authenticate credentials (Client.forHost credentials.host) session.wire =
      ((outcome, client), wire)) :
    onWire ((Client.authenticate credentials).run (Client.forHost credentials.host)) session =
      (.ok (outcome, client), { session with wire := wire }) := by
  simp only [onWire, StateT.run, ran]

theorem accepted_of_sign_in (signed : signIn credentials session = (.ok client, after)) :
    Accepted credentials after.wire := by
  obtain ⟨⟨result, signedIn⟩, middle, asked, rest⟩ := steps_of_bind signed
  obtain ⟨_, _, taken, returned⟩ := steps_of_bind rest
  obtain ⟨rfl, rfl⟩ := or_fail_ok taken
  cases returned
  rcases ran : Client.authenticate credentials (Client.forHost credentials.host) session.wire with
    ⟨⟨outcome, other⟩, wire⟩
  rw [sign_in_asks ran] at asked
  cases asked
  have connection : Client.SignsIn credentials (.ok ())
      ⟨Client.forHost credentials.host, session.wire⟩ ⟨client, wire⟩ := Client.signs_in ran
  obtain ⟨_, token, filled, _, sent, status, success, body, replied, held⟩ := connection
  exact ⟨sent, status, success, body, token, replied, held, filled⟩

theorem accepted_of_accept
    (accepted : accept source config session = (.ok (credentials, client), after)) :
    Accepted credentials after.wire := by
  obtain ⟨_, _, _, completed⟩ := steps_of_bind accepted
  obtain ⟨other, _, _, last⟩ := steps_of_bind completed
  obtain ⟨signedClient, _, signed, returned⟩ := steps_of_bind last
  cases returned
  exact accepted_of_sign_in signed

end Stops

/-- How a command treats files before and without the acceptance of credentials. -/
structure WaitsForAcceptance (invocation : Invocation) (session : Session) : Prop where
  /-- Without a configuration and settings a run ends at once. -/
  unprepared : ∀ failure after, prepare invocation session = (.error failure, after) →
    command invocation session = (.error failure, after) ∧ after.files = session.files
  /-- From a document no file is made or changed but the output. -/
  document : ∀ known prepared path, prepare invocation session = (.ok known, prepared) →
    invocation.command.source.schema = some path →
    session.files.KeptBut known.output (command invocation session).2.files
  /-- Without credentials that the server accepts a run ends where they are missing. -/
  refused : ∀ known prepared failure after, prepare invocation session = (.ok known, prepared) →
    invocation.command.source.schema = none →
    accept invocation.command.source known.config prepared = (.error failure, after) →
    command invocation session = (.error failure, after) ∧ after.files = session.files
  /-- When the server accepts them, the files are still as they were; what is left to do is to keep
  them, to list collections, and to make an output. -/
  accepted : ∀ known prepared credentials client after,
    prepare invocation session = (.ok known, prepared) →
    invocation.command.source.schema = none →
    accept invocation.command.source known.config prepared = (.ok (credentials, client), after) →
    Accepted credentials after.wire ∧ after.files = session.files ∧
      ∃ finish : List Collection → Run Unit,
        (∀ collections, FilesKeptBut known.output (finish collections)) ∧
        command invocation session =
          (keepAndList invocation.command.source (credentials, client) >>= finish) after
  /-- A plain file whose writing fails ends the run. Whatever is left of it, a path that leads to
  another file finds what it found before, or as before none. -/
  unsaved : ∀ known prepared credentials client after fault,
    prepare invocation session = (.ok known, prepared) →
    invocation.command.source.schema = none →
    accept invocation.command.source known.config prepared = (.ok (credentials, client), after) →
    invocation.command.source.saveCredentials = true → invocation.command.source.encrypt = false →
    (session.writeNext invocation.command.source.credentialsFile (.text credentials.save)).1 =
      .error fault →
    ∃ stopped, command invocation session =
        (.error (saveFailure invocation.command.source.credentialsFile (.io fault)), stopped) ∧
      ∀ path, session.files.LeadsApart [invocation.command.source.credentialsFile] path →
        session.files.FindsSame stopped.files path

/-- Files wait for the server in every run, whatever its arguments, configuration and files are and
whatever the server replies. -/
theorem command_waits_for_acceptance (invocation : Invocation) (session : Session) :
    WaitsForAcceptance invocation session := by
  have preparing := (only_talks_prepare invocation).files_kept
  have accepting (config : Config) :=
    (only_talks_accept invocation.command.source config).files_kept
  constructor
  case unprepared =>
    exact fun failure after failed =>
      ⟨command_of_unprepared failed, preparing.same_files failed⟩
  case document =>
    intro known prepared path settled fromDocument
    obtain ⟨finish, finishes, same⟩ := command_of_prepared settled
    have loads : loadCollections invocation.command.source known.config = loadDocument path := by
      rw [loadCollections, fromDocument]
    rw [same, loads, ← preparing.same_files settled]
    exact files_kept_but_bind (only_talks_load_document path) finishes prepared
  case refused =>
    intro known prepared failure after settled fromServer refused
    have unloaded : loadCollections invocation.command.source known.config prepared =
        (.error failure, after) := by
      rw [load_eq_accept fromServer, bind_of_error refused]
    exact ⟨command_of_unloaded settled unloaded,
      ((accepting _).same_files refused).trans (preparing.same_files settled)⟩
  case accepted =>
    intro known prepared credentials client after settled fromServer accepted
    obtain ⟨finish, finishes, same⟩ := command_of_prepared settled
    refine ⟨accepted_of_accept accepted,
      ((accepting _).same_files accepted).trans (preparing.same_files settled),
      finish, finishes, ?_⟩
    rw [same, load_eq_accept fromServer, bind_assoc]
    exact bind_of_ok accepted
  case unsaved =>
    intro known prepared credentials client after fault settled fromServer accepted saves plain
      unwritten
    have same : after.writeNext = session.writeNext :=
      ((only_talks_accept _ _).same_write_next accepted).trans
        ((only_talks_prepare invocation).same_write_next settled)
    rw [← same] at unwritten
    obtain ⟨stopped, failed, files⟩ :=
      load_of_unsaved fromServer saves plain accepted unwritten
    refine ⟨stopped, command_of_unloaded settled failed, fun path apart => ?_⟩
    rw [files, same]
    exact FileTree.finds_same_of_apart
      (FileTree.confined_of_write_with (List.mem_singleton_self _) _ _) apart

def visiting : SourceArguments where
  host := some Client.visitor.host
  email := some Client.visitor.email
  password := some Client.visitor.password
  saveCredentials := true

def granting : Session :=
  { offline { entries := [(["credentials.enc.env"], .file (.text "SALT=\n"))] } with
    wire := { server := Client.grudgingServer } }

def grantee : Client := { Client.newcomer.client with token := some "t" }

def granted (files : FileTree) : Session :=
  { granting with
    files
    wire := (Wire.note .info "Authenticated as a@b" Client.grantedWire).2 }

theorem granting_accepts (files : FileTree) (interruptions : List (Option Interruption)) :
    accept visiting {} { granting with files, interruptions } =
      (.ok (Client.visitor, grantee), { granted files with interruptions }) := by
  let start : Session := { granting with files, interruptions }
  have replied : Wire.withRetry Client.newcomer.client.retry
      (Wire.ask (Client.newcomer.client.signInRequest Client.visitor) Client.tokenOfBody)
      start.wire = (.ok "t", Client.grantedWire) :=
    Wire.retry_from_ok (Wire.ask_of_answer rfl rfl (by decide) Client.token_of_grant_text)
  have authenticated := Client.authenticate_eq Client.visitor Client.newcomer.client start.wire
  rw [replied] at authenticated
  have known : partialCredentials visiting {} (ask (Dialogue.askPassphrase false)) start =
      (.ok Client.visitor, start) := rfl
  have whole : ask (Dialogue.completeCredentials Client.visitor) start =
      (.ok Client.visitor, start) := rfl
  have signed : signIn Client.visitor start = (.ok _, _) :=
    (bind_of_ok (sign_in_asks authenticated)).trans rfl
  rw [accept, bind_of_ok known, bind_of_ok whole, bind_of_ok signed]
  rfl

/-- The server accepts the credentials, the writing of their file breaks off after three bytes, and
the sealed file stays. -/
theorem command_waits_for_acceptance_broken_off : ∃ stopped,
    command { command := .inspect visiting }
        { granting with interruptions := [some (.brokenOff 3)] } =
      (.error (saveFailure "credentials.env" (.io .other)), stopped) ∧
      (stopped.files.read "credentials.enc.env").toOption = some (.text "SALT=\n") := by
  let session : Session := { granting with interruptions := [some (.brokenOff 3)] }
  have accepted := granting_accepts granting.files [some (.brokenOff 3)]
  have waits := command_waits_for_acceptance { command := .inspect visiting } session
  have settled : prepare { command := .inspect visiting } session = (.ok ⟨{}, none⟩, session) :=
    rfl
  obtain ⟨stopped, ended, found⟩ :=
    waits.unsaved _ _ _ _ _ _ settled rfl accepted rfl rfl rfl
  have apart : session.files.LeadsApart ["credentials.env"] "credentials.enc.env" := by
    intro location leads other member
    cases leads
    rw [List.mem_singleton.mp member]
    exact fun found => absurd found (by decide)
  exact ⟨stopped, ended, (found _ apart).content⟩

def filesBefore : FileTree where
  entries := [(["s.json"], .file (.text "[]")), (["credentials.env"], .file (.text "HOST=h\n"))]

/-- A document has no server to wait for: an output takes the place of credentials at once. -/
theorem output_replaces_credentials :
    let invocation : Invocation :=
      { command := .generate { schema := some "s.json" } { output := some "credentials.env" } }
    let (result, after) := command invocation (offline filesBefore)
    result = .ok () ∧ after.wire.sent = [] ∧
      after.files.read "credentials.env" ≠ filesBefore.read "credentials.env" :=
  ⟨rfl, rfl, by decide⟩

end Run

end CollectionTypes
