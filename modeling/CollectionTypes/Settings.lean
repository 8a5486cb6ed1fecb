import CollectionTypes.CommandLine.Basic
import CollectionTypes.Config.Basic
import CollectionTypes.Generator.Basic
import CollectionTypes.Selection.Policy

/-!
Settings from two sources: the command line first, then the configuration file, then what is usual
for the target. A switch is on if either source turns it on.
-/

namespace CollectionTypes

structure Settings where
  target : Target
  style : Style
  package : String
  output : Option String
deriving DecidableEq, Repr

namespace Settings

def isPackageStart (letter : Char) : Bool := letter.isAlpha || letter = '_'

def isPackagePart (letter : Char) : Bool := letter.isAlphanum || letter = '_'

/-- ASCII identifiers; reserved words are not told apart. -/
def isPackageName (name : String) : Bool :=
  match name.toList with
  | [] => false
  | first :: rest => isPackageStart first && rest.all isPackagePart

def invalidPackage (name : String) : Failure :=
  { cause := "Invalid Go package name: " ++ Text.Escaped.display name }

def targetOf (arguments : OutputArguments) (config : Config) : Except Failure Target :=
  match arguments.target with
  | some target => .ok target
  | none => config.target?.map (·.getD .typeScript)

def styleOf (arguments : OutputArguments) (config : Config) (target : Target) : Style :=
  let usual := target.defaultStyle
  { explicitOptional :=
      arguments.optionalPointers || config.optionalPointers || usual.explicitOptional
    relationIds := arguments.relationIds || config.relationIds || usual.relationIds }

def packageOf (arguments : OutputArguments) (config : Config) : String :=
  (arguments.package <|> config.package).getD Generator.defaultPackage

def resolve (arguments : OutputArguments) (config : Config) : Except Failure Settings := do
  let target ← targetOf arguments config
  let package := packageOf arguments config
  if isPackageName package then
    return ⟨target, styleOf arguments config target, package, arguments.output <|> config.output⟩
  else throw (invalidPackage package)

def generator (settings : Settings) : Generator :=
  ⟨settings.target, settings.style, settings.package⟩

end Settings

def firstNonEmptyList (first second : List String) : List String :=
  if first.isEmpty then second else first

def SelectionPolicy.resolve (arguments : SourceArguments) (config : Config) : SelectionPolicy where
  all := arguments.allCollections || config.allCollections
  includes := firstNonEmptyList arguments.includes config.includes
  excludes := firstNonEmptyList arguments.excludes config.excludes

/-- What the command line says about credentials. -/
def SourceArguments.credentials (arguments : SourceArguments) : Credentials where
  host := arguments.host.getD ""
  email := arguments.email.getD ""
  password := arguments.password.getD ""

end CollectionTypes
