import CollectionTypes.CommandLine.Reader
import CollectionTypes.EnvFile.Basic
import CollectionTypes.Text.Basic

/-!
Command lines: a command with its options. Variables of the environment stand in for some options
that are not given.
-/

namespace CollectionTypes

/-- Where the collections come from, and which of them to use. -/
structure SourceArguments where
  host : Option String := none
  email : Option String := none
  password : Option String := none
  schema : Option String := none
  credentialsFile : String := "credentials.env"
  encryptedCredentialsFile : String := "credentials.enc.env"
  saveCredentials : Bool := false
  encrypt : Bool := false
  passphrase : Option String := none
  allCollections : Bool := false
  includes : List String := []
  excludes : List String := []
  interactive : Bool := false
deriving DecidableEq, Repr, Inhabited

structure OutputArguments where
  target : Option Target := none
  output : Option String := none
  package : Option String := none
  optionalPointers : Bool := false
  relationIds : Bool := false
deriving DecidableEq, Repr, Inhabited

inductive Command where
  | generate (source : SourceArguments) (output : OutputArguments)
  | inspect (source : SourceArguments)
deriving DecidableEq, Repr

def Command.source : Command → SourceArguments
  | .generate source _ => source
  | .inspect source => source

structure Invocation where
  quiet : Bool := false
  config : Option String := none
  command : Command
deriving DecidableEq, Repr

namespace CommandLine

open EnvFile (Environment)

def valueOrVariable (environment : Environment) (reading : Reading) (name : OptionName) :
    Option String :=
  reading.value? name <|> name.environmentName?.bind (List.lookup · environment)

def sourceArguments (environment : Environment) (reading : Reading) : SourceArguments :=
  let defaults : SourceArguments := {}
  let names (name : OptionName) := (reading.values name).flatMap (Text.split ',')
  { host := valueOrVariable environment reading .host
    email := valueOrVariable environment reading .email
    password := valueOrVariable environment reading .password
    schema := reading.value? .schema
    credentialsFile := (reading.value? .credentialsFile).getD defaults.credentialsFile
    encryptedCredentialsFile :=
      (reading.value? .encryptedCredentialsFile).getD defaults.encryptedCredentialsFile
    saveCredentials := reading.has .saveCredentials
    encrypt := reading.has .encrypt
    passphrase := valueOrVariable environment reading .passphrase
    allCollections := reading.has .allCollections
    includes := names .includes
    excludes := names .excludes
    interactive := reading.has .interactive }

def outputArguments (reading : Reading) : OutputArguments where
  target := (reading.value? .target).bind Target.ofName?
  output := reading.value? .output
  package := reading.value? .package
  optionalPointers := reading.has .optionalPointers
  relationIds := reading.has .relationIds

/-- Credentials are saved only after a server took them; encrypting asks for saving, unless there is
no server to begin with. -/
def checkTogether (reading : Reading) : Except UsageFault Unit :=
  if reading.has .schema && reading.has .saveCredentials then .error .conflict
  else if reading.has .encrypt && !reading.has .saveCredentials && !reading.has .schema then
    .error .missingArgument
  else .ok ()

def helpWord : String := "help"

def words : List String := [Word.generate.name, Word.inspect.name, helpWord]

/-- What the help command is asked about. -/
def helpOn : List String → UsageFault
  | [] => .help
  | [word] => if words.contains word then .help else .unknownCommand
  | _ => .unknownCommand

def commandOf (environment : Environment) (word : Word) (reading : Reading) : Command :=
  match word with
  | .generate => .generate (sourceArguments environment reading) (outputArguments reading)
  | .inspect => .inspect (sourceArguments environment reading)

/-- What comes after the command counts before what comes ahead of it. -/
def invocationOf (environment : Environment) (word : Word) (leading reading : Reading) :
    Invocation where
  quiet := leading.has .quiet || reading.has .quiet
  config := reading.value? .config <|> leading.value? .config
  command := commandOf environment word reading

def parse (environment : Environment) (arguments : List String) :
    Except UsageFault Invocation := do
  let (leading, rest) ← Reading.arguments leadingOptions words {} arguments
  match rest with
  | [] =>
      let leading ← leading.settle
      throw (if leading.given.isEmpty then .nothingGiven else .missingCommand)
  | name :: rest =>
      match Word.ofName? name with
      | none => throw (helpOn rest)
      | some word =>
          let (reading, _) ← Reading.arguments word.options [] {} rest
          let reading ← reading.settle
          checkTogether reading
          let leading ← leading.settle
          return invocationOf environment word leading reading

end CommandLine

end CollectionTypes
