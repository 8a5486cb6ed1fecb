import CollectionTypes.Session.Collections

/-!
The two commands, and the whole run of a command line.
-/

namespace CollectionTypes

namespace Run

def writeFile (path : String) (text : String) : Run Unit := do
  if let some parent := Path.directory? path then
    makeDirectories (fileFailure ("Failed to create directory: " ++ Path.display parent)) parent
  putFile (fileFailure ("Failed to write output: " ++ Path.display path)) path (.text text)
  note .info ("Wrote " ++ Text.Decimal.write text.utf8ByteSize ++ " bytes to " ++ path)

/-- To a file, or to the standard output if there is none. -/
def writeOutput (text : String) : Option String → Run Unit
  | some path => writeFile path text
  | none => write text

def generatingMessage (target : Target) (models : List Model) : String :=
  "Generating " ++ target.name ++ " for " ++ Text.Decimal.write models.length ++ " collection(s)"

def generate (source : SourceArguments) (arguments : OutputArguments) (config : Config) :
    Run Unit := do
  let settings ← orFail id (Settings.resolve arguments config)
  let collections ← loadCollections source config
  let selected ← select source config collections
  let generator := settings.generator
  let ⟨models, diagnostics⟩ := generator.interpret selected collections
  warn (diagnostics.map (·.message))
  if !diagnostics.isEmpty then
    note .warn (Text.Decimal.write diagnostics.length ++ " field(s) degraded to permissive types")
  note .info (generatingMessage settings.target models)
  warn ((generator.warnings models).map (·.message))
  writeOutput (generator.generate models) settings.output

def modelReport (model : Model) : String :=
  model.collection.describe ++ "\n" ++
    String.join (model.properties.map fun property => "  - " ++ property.describe ++ "\n")

def report (interpretation : Interpretation) : String :=
  let models := String.join (interpretation.models.map modelReport)
  if interpretation.diagnostics.isEmpty then models
  else
    models ++ "\nDiagnostics:\n" ++
      String.join (interpretation.diagnostics.map fun diagnostic =>
        "  - " ++ diagnostic.message ++ "\n")

def inspect (source : SourceArguments) (config : Config) : Run Unit := do
  let collections ← loadCollections source config
  let selected ← select source config collections
  let interpretation := interpret collections {} selected
  warn (interpretation.diagnostics.map (·.message))
  writeOutput (report interpretation) none

def readConfig (path : String) : Run Config := do
  let content ← orFail (fileFailure ("Failed to read config: " ++ Path.display path))
    ((← get).files.readText path)
  orFail id (Config.parse content)

/-- The file that is given has to be there; the usual one need not. -/
def loadConfig : Option String → Run Config
  | some path => readConfig path
  | none => do
      if (← get).files.contains Config.defaultPath then readConfig Config.defaultPath
      else return {}

def command (invocation : Invocation) : Run Unit := do
  let config ← loadConfig invocation.config
  match invocation.command with
  | .generate source arguments => generate source arguments config
  | .inspect source => inspect source config

end Run

/-- How a run ends. -/
inductive Ending where
  | done
  | failed (failure : Failure)
  | refused (fault : CommandLine.UsageFault)
deriving DecidableEq, Repr

namespace Ending

/-- Asking for help or for the version is no mistake. -/
def exitCode : Ending → Nat
  | .done => 0
  | .failed _ => 1
  | .refused .help | .refused .version => 0
  | .refused _ => 2

end Ending

def programName : String := "pocketgen"

def versionText : String := programName ++ " 0.3.0\n"

def Session.run (session : Session) (arguments : List String) : Ending × Session :=
  match CommandLine.parse session.environment arguments with
  | .error .version =>
      (.refused .version, { session with output := session.output ++ versionText })
  | .error fault => (.refused fault, session)
  | .ok invocation =>
      match Run.command invocation session with
      | (.ok (), after) => (.done, after)
      | (.error failure, after) => (.failed failure, after)

/-- The variable that says which log entries are shown. -/
def logVariable : String := "RUST_LOG"

/-- The log entries of a run that its user gets to see. -/
def Session.shownLog (session : Session) (arguments : List String) : List Log.Entry :=
  match CommandLine.parse session.environment arguments with
  | .error _ => []
  | .ok invocation =>
      let filter := session.environment.lookup logVariable
      Log.shown (Log.shownRank invocation.quiet filter) session.wire.log

end CollectionTypes
