import CollectionTypes.Target

/-!
The options of the command line: their names, what values they take, and which of them go with
which command.
-/

namespace CollectionTypes.CommandLine

/-- Why a command line is not followed. Asking for help is one of the reasons. -/
inductive UsageFault where
  | nothingGiven
  | missingCommand
  | unknownCommand
  | unknownArgument
  /-- A value that is missing, or empty where a path is wanted. -/
  | invalidValue
  /-- A value that is not among those known. -/
  | rejectedValue
  | unexpectedValue
  | conflict
  | missingArgument
  | help
  | version
deriving DecidableEq, Repr

def UsageFault.message : UsageFault → String
  | nothingGiven | missingCommand => "a command is missing"
  | unknownCommand => "there is no such command"
  | unknownArgument => "there is no such option"
  | invalidValue => "an option has no value"
  | rejectedValue => "an option cannot have this value"
  | unexpectedValue => "a switch has a value"
  | conflict => "an option is given twice, or together with one that excludes it"
  | missingArgument => "an option is given without one that it needs"
  | help => "help was asked for"
  | version => "the version was asked for"

inductive OptionName where
  | quiet
  | config
  | help
  | version
  | host
  | email
  | password
  | schema
  | credentialsFile
  | encryptedCredentialsFile
  | saveCredentials
  | encrypt
  | passphrase
  | allCollections
  | includes
  | excludes
  | interactive
  | target
  | output
  | package
  | optionalPointers
  | relationIds
deriving DecidableEq, Repr

inductive ValueForm where
  | switch
  | text
  | path
  | target
  /-- Names between commas; the option may be repeated. -/
  | names
deriving DecidableEq, Repr

namespace OptionName

def long : OptionName → String
  | quiet => "quiet"
  | config => "config"
  | help => "help"
  | version => "version"
  | host => "host"
  | email => "email"
  | password => "password"
  | schema => "schema"
  | credentialsFile => "credentials-file"
  | encryptedCredentialsFile => "encrypted-credentials-file"
  | saveCredentials => "save-credentials"
  | encrypt => "encrypt"
  | passphrase => "passphrase"
  | allCollections => "all-collections"
  | includes => "include"
  | excludes => "exclude"
  | interactive => "interactive"
  | target => "target"
  | output => "output"
  | package => "package"
  | optionalPointers => "optional-pointers"
  | relationIds => "relation-ids"

def short? : OptionName → Option Char
  | quiet => some 'q'
  | help => some 'h'
  | version => some 'V'
  | allCollections => some 'a'
  | includes => some 'i'
  | excludes => some 'x'
  | target => some 't'
  | output => some 'o'
  | _ => none

def form : OptionName → ValueForm
  | host | email | password | passphrase | package => .text
  | config | schema | credentialsFile | encryptedCredentialsFile | output => .path
  | includes | excludes => .names
  | target => .target
  | _ => .switch

/-- The variable that stands in for an option that is not given. -/
def environmentName? : OptionName → Option String
  | host => some "POCKETGEN_HOST"
  | email => some "POCKETGEN_EMAIL"
  | password => some "POCKETGEN_PASSWORD"
  | passphrase => some "POCKETGEN_PASSPHRASE"
  | _ => none

def checkValue (name : OptionName) (value : String) : Except UsageFault Unit :=
  match name.form with
  | .path => if value.isEmpty then .error .invalidValue else .ok ()
  | .target => if (Target.ofName? value).isSome then .ok () else .error .rejectedValue
  | _ => .ok ()

end OptionName

inductive Word where
  | generate
  | inspect
deriving DecidableEq, Repr

namespace Word

def name : Word → String
  | .generate => "generate"
  | .inspect => "inspect"

def ofName? : String → Option Word
  | "generate" => some .generate
  | "inspect" => some .inspect
  | _ => none

end Word

/-! Before the command, and after it. -/

def sharedOptions : List OptionName := [.quiet, .config, .help]

def leadingOptions : List OptionName := sharedOptions ++ [.version]

def sourceOptions : List OptionName :=
  [.host, .email, .password, .schema, .credentialsFile, .encryptedCredentialsFile,
    .saveCredentials, .encrypt, .passphrase, .allCollections, .includes, .excludes, .interactive]

def outputOptions : List OptionName :=
  [.target, .output, .package, .optionalPointers, .relationIds]

def Word.options : Word → List OptionName
  | .generate => sharedOptions ++ sourceOptions ++ outputOptions
  | .inspect => sharedOptions ++ sourceOptions

end CollectionTypes.CommandLine
