import CollectionTypes.Proofs.Credentials.Merged
import CollectionTypes.Proofs.Credentials.Sealed
import CollectionTypes.Proofs.Session.Runs
import CollectionTypes.Session.Credentials

/-!
Where credentials come from: each part from the first of three sources that has it. The command line
and the variables that stand in for it count as one source here, and so do the two files, of which
at most one is looked at. What is asked of the user in the end is no part of this.
-/

namespace CollectionTypes

namespace Run

/-- What the files of a session have to say, and the session in which they have said it: the sealed
file if it is there, else the plain one if that is there. -/
inductive FilesSay (arguments : SourceArguments) (askPassphrase : Run String) (session : Session) :
    Credentials → Session → Prop
  | sealed {passphrase : String} {content : FileContent} {kept : Credentials} {unlocked : Session}
      (present : session.files.contains arguments.encryptedCredentialsFile = true)
      (given : passphraseOr arguments askPassphrase session = (.ok passphrase, unlocked))
      (held : unlocked.files.read arguments.encryptedCredentialsFile = .ok content)
      (opens : Credentials.openWith session.environment passphrase content = .ok kept) :
      FilesSay arguments askPassphrase session kept unlocked
  | plain {content : FileContent} {kept : Credentials}
      (absent : session.files.contains arguments.encryptedCredentialsFile = false)
      (present : session.files.contains arguments.credentialsFile = true)
      (held : session.files.read arguments.credentialsFile = .ok content)
      (loads : Credentials.load session.environment content = .ok kept) :
      FilesSay arguments askPassphrase session kept session
  | nothing (absent : session.files.contains arguments.encryptedCredentialsFile = false)
      (alsoAbsent : session.files.contains arguments.credentialsFile = false) :
      FilesSay arguments askPassphrase session {} session

/-- The three sources put together without a look at whether the first one is enough. -/
def mergedCredentials (arguments : SourceArguments) (config : Config)
    (askPassphrase : Run String) : Run Credentials := do
  let kept ← keptCredentials arguments askPassphrase
  return (arguments.credentials.orElse kept).orElse config.credentials

section Sources

variable {arguments : SourceArguments} {config : Config} {askPassphrase : Run String}
  {session after : Session} {kept credentials : Credentials}

theorem load_credentials_ok_iff {path : String}
    {read : FileContent → Except ClientError Credentials} :
    loadCredentials path read session = (.ok kept, after) ↔
      after = session ∧
        ∃ content, session.files.read path = .ok content ∧ read content = .ok kept := by
  rw [loadCredentials, bind_get]
  constructor
  · intro loaded
    obtain ⟨content, middle, held, said⟩ := steps_of_bind loaded
    obtain ⟨found, rfl⟩ := or_fail_ok held
    obtain ⟨reads, rfl⟩ := or_fail_ok said
    exact ⟨rfl, content, found, reads⟩
  · rintro ⟨rfl, content, found, reads⟩
    rw [found]
    refine (bind_of_ok rfl).trans ?_
    rw [reads]
    rfl

theorem kept_credentials_ok_iff :
    keptCredentials arguments askPassphrase session = (.ok kept, after) ↔
      FilesSay arguments askPassphrase session kept after := by
  rw [keptCredentials, bind_get]
  constructor
  · intro loaded
    cases sealedThere : session.files.contains arguments.encryptedCredentialsFile with
    | true =>
        rw [sealedThere, if_pos rfl] at loaded
        obtain ⟨passphrase, unlocked, given, opened⟩ := steps_of_bind loaded
        obtain ⟨rfl, content, held, opens⟩ := load_credentials_ok_iff.mp opened
        exact .sealed sealedThere given held opens
    | false =>
        rw [sealedThere, if_neg Bool.false_ne_true] at loaded
        cases plainThere : session.files.contains arguments.credentialsFile with
        | true =>
            rw [plainThere, if_pos rfl] at loaded
            obtain ⟨rfl, content, held, loads⟩ := load_credentials_ok_iff.mp loaded
            exact .plain sealedThere plainThere held loads
        | false =>
            rw [plainThere, if_neg Bool.false_ne_true] at loaded
            cases loaded
            exact .nothing sealedThere plainThere
  · intro said
    cases said with
    | sealed present given held opens =>
        rw [present, if_pos rfl, bind_of_ok given]
        exact load_credentials_ok_iff.mpr ⟨rfl, _, held, opens⟩
    | plain absent present held loads =>
        rw [absent, if_neg Bool.false_ne_true, present, if_pos rfl]
        exact load_credentials_ok_iff.mpr ⟨rfl, _, held, loads⟩
    | nothing absent alsoAbsent =>
        rw [absent, if_neg Bool.false_ne_true, alsoAbsent, if_neg Bool.false_ne_true]
        rfl

theorem merged_credentials_ok_iff :
    mergedCredentials arguments config askPassphrase session = (.ok credentials, after) ↔
      ∃ kept, FilesSay arguments askPassphrase session kept after ∧
        credentials = (arguments.credentials.orElse kept).orElse config.credentials := by
  constructor
  · intro merged
    obtain ⟨kept, middle, said, returned⟩ := steps_of_bind merged
    cases returned
    exact ⟨kept, kept_credentials_ok_iff.mp said, rfl⟩
  · rintro ⟨kept, said, rfl⟩
    exact bind_of_ok (kept_credentials_ok_iff.mpr said)

theorem partial_of_complete (complete : arguments.credentials.isComplete = true) :
    partialCredentials arguments config askPassphrase = pure arguments.credentials := by
  simp only [partialCredentials, complete, if_pos]

theorem partial_of_incomplete (incomplete : arguments.credentials.isComplete = false) :
    partialCredentials arguments config askPassphrase =
      mergedCredentials arguments config askPassphrase := by
  simp only [partialCredentials, incomplete, Bool.false_eq_true, if_false]
  rfl

end Sources

structure FollowsPrecedence (arguments : SourceArguments) (config : Config)
    (askPassphrase : Run String) : Prop where
  /-- Whatever is found has each part from the first source with that part. With complete arguments
  it makes no difference what the files would have said. -/
  found : ∀ session credentials after,
    partialCredentials arguments config askPassphrase session = (.ok credentials, after) →
    if arguments.credentials.isComplete then
      ∀ kept, credentials.TakesFirst [arguments.credentials, kept, config.credentials]
    else
      ∃ kept, FilesSay arguments askPassphrase session kept after ∧
        credentials.TakesFirst [arguments.credentials, kept, config.credentials]
  /-- Credentials are found unless something is missing and the files cannot be read. -/
  succeeds : ∀ session,
    (∃ credentials after,
      partialCredentials arguments config askPassphrase session = (.ok credentials, after)) ↔
    arguments.credentials.isComplete ∨
      ∃ kept after, FilesSay arguments askPassphrase session kept after
  noPassword : config.credentials.password = ""
  /-- With complete arguments nothing is asked and no file is looked at. -/
  early : arguments.credentials.isComplete →
    partialCredentials arguments config askPassphrase = pure arguments.credentials
  /-- With complete arguments, what files can be read add nothing to them. -/
  agrees : arguments.credentials.isComplete →
    ∀ session kept after, FilesSay arguments askPassphrase session kept after →
      mergedCredentials arguments config askPassphrase session =
        (.ok arguments.credentials, after)

/-- Credentials are found in the order of their sources, whatever the command line, the variables,
the files and the configuration say, and however a passphrase is come by. -/
theorem credentials_follow_precedence (arguments : SourceArguments) (config : Config)
    (askPassphrase : Run String) : FollowsPrecedence arguments config askPassphrase where
  found := by
    intro session credentials after ran
    cases complete : arguments.credentials.isComplete with
    | true =>
        rw [partial_of_complete complete] at ran
        cases ran
        rw [if_pos rfl]
        intro kept
        have merged := Credentials.takes_first_of_or_else arguments.credentials kept
          config.credentials
        rwa [Credentials.or_else_of_complete complete,
          Credentials.or_else_of_complete complete] at merged
    | false =>
        rw [partial_of_incomplete complete] at ran
        obtain ⟨kept, said, rfl⟩ := merged_credentials_ok_iff.mp ran
        rw [if_neg Bool.false_ne_true]
        exact ⟨kept, said, Credentials.takes_first_of_or_else _ _ _⟩
  succeeds := by
    intro session
    cases complete : arguments.credentials.isComplete with
    | true =>
        rw [partial_of_complete complete]
        exact ⟨fun _ => .inl rfl, fun _ => ⟨_, session, rfl⟩⟩
    | false =>
        rw [partial_of_incomplete complete]
        simp only [merged_credentials_ok_iff, Bool.false_eq_true, false_or]
        exact ⟨fun ⟨_, after, kept, said, _⟩ => ⟨kept, after, said⟩,
          fun ⟨kept, after, said⟩ => ⟨_, after, kept, said, rfl⟩⟩
  noPassword := rfl
  early := partial_of_complete
  agrees := by
    intro complete session kept after said
    refine merged_credentials_ok_iff.mpr ⟨kept, said, ?_⟩
    rw [Credentials.or_else_of_complete complete,
      Credentials.or_else_of_complete complete]

def halfGiven : SourceArguments where
  host := some ""
  email := some "flag@b.c"
  passphrase := some "secret"

def halfConfigured : Config where
  host := some "http://config"
  email := some "config@b.c"

def bothFiles (sealedText : String) : Session :=
  offline { entries := [(["credentials.enc.env"], .file (.text sealedText)),
    (["credentials.env"], .file (.text "HOST=http://plain\n"))] }

/-- The email is given, the password sealed and the address configured; what the plain file says
counts for nothing. -/
theorem credentials_follow_precedence_sealed : ∃ text,
    Credentials.sealWith ⟨"", "file@b.c", "file-pass"⟩ "secret" Credentials.zeroOptions =
      .ok text ∧
    ∃ after, partialCredentials halfGiven halfConfigured (throw default) (bothFiles text) =
      (.ok ⟨"http://config", "flag@b.c", "file-pass"⟩, after) := by
  have salted : Credentials.zeroOptions.salt ≠ [] := by decide
  obtain ⟨text, written, opens⟩ := Credentials.open_seal [] ⟨"", "file@b.c", "file-pass"⟩ "secret"
    salted (by decide) (by decide)
  refine ⟨text, written, ?_⟩
  have follows := credentials_follow_precedence halfGiven halfConfigured (throw default)
  have readable : FilesSay halfGiven (throw default) (bothFiles text) _ (bothFiles text) :=
    .sealed rfl rfl rfl opens
  obtain ⟨⟨host, email, password⟩, after, found⟩ :=
    (follows.succeeds (bothFiles text)).mpr (.inr ⟨_, _, readable⟩)
  refine ⟨after, found.trans ?_⟩
  have sources := follows.found _ _ _ found
  rw [if_neg (by decide)] at sources
  obtain ⟨kept, said, takes⟩ := sources
  have same : kept = ⟨"", "file@b.c", "file-pass"⟩ := by
    have twice := (kept_credentials_ok_iff.mpr said).symm.trans
      (kept_credentials_ok_iff.mpr readable)
    exact Except.ok.inj (congrArg Prod.fst twice)
  subst same
  obtain ⟨rfl, rfl, rfl⟩ : host = "http://config" ∧ email = "flag@b.c" ∧ password = "file-pass" :=
    ⟨takes.first Credentials.host (by simp [Credentials.parts]),
      takes.first Credentials.email (by simp [Credentials.parts]),
      takes.first Credentials.password (by simp [Credentials.parts])⟩
  rfl

end Run

end CollectionTypes
