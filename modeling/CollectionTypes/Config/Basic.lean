import CollectionTypes.Config.Tokens
import CollectionTypes.Credentials.Basic
import CollectionTypes.Failure
import CollectionTypes.Target

/-!
Settings in a configuration file: lines of a key, an equals sign and a value. Each key has one kind
of value and may be set once; a file with anything else in it, such as a section, is refused as a
whole.
-/

namespace CollectionTypes

structure Config where
  host : Option String := none
  email : Option String := none
  target : Option String := none
  package : Option String := none
  output : Option String := none
  allCollections : Bool := false
  includes : List String := []
  excludes : List String := []
  optionalPointers : Bool := false
  relationIds : Bool := false
deriving DecidableEq, Repr, Inhabited

namespace Config

/-- Where settings are looked for unless a path is given. -/
def defaultPath : String := "pocketgen.toml"

inductive Setting where
  | text (value : String)
  | flag (value : Bool)
  | texts (values : List String)
deriving DecidableEq, Repr

def readItems : List Token → Option (List String)
  | [.closing] => some []
  | [.text value _, .closing] => some [String.ofList value]
  | .text value _ :: .comma :: rest => (readItems rest).map (String.ofList value :: ·)
  | _ => none

def readSetting : List Token → Option Setting
  | [.text value _] => some (.text (String.ofList value))
  | [.word letters] =>
      if letters = "true".toList then some (.flag true)
      else if letters = "false".toList then some (.flag false)
      else none
  | .opening :: rest => (readItems rest).map .texts
  | _ => none

/-- A key may be quoted, but not over several lines. -/
def readKey : Token → Option String
  | .word letters => some (String.ofList letters)
  | .text letters false => some (String.ofList letters)
  | _ => none

/-- The setting of a line, if it has any. -/
def readLine : List Token → Option (Option (String × Setting))
  | [] => some none
  | key :: .equals :: rest => do
      let name ← readKey key
      let setting ← readSetting rest
      return some (name, setting)
  | _ => none

def assign (config : Config) (name : String) (setting : Setting) : Option Config :=
  match name, setting with
  | "host", .text value => some { config with host := some value }
  | "email", .text value => some { config with email := some value }
  | "target", .text value => some { config with target := some value }
  | "package", .text value => some { config with package := some value }
  | "output", .text value => some { config with output := some value }
  | "all_collections", .flag value => some { config with allCollections := value }
  | "include", .texts values => some { config with includes := values }
  | "exclude", .texts values => some { config with excludes := values }
  | "optional_pointers", .flag value => some { config with optionalPointers := value }
  | "relation_ids", .flag value => some { config with relationIds := value }
  | _, _ => none

def readContent (content : String) : Option Config := do
  let lines ← tokenLines content
  let settings := (← lines.mapM readLine).filterMap id
  if (settings.map (·.1)).Nodup then
    settings.foldlM (fun config (name, setting) => config.assign name setting) {}
  else none

def notUnderstood : Failure := ⟨["Failed to parse config"], "<toml>"⟩

def parse (content : String) : Except Failure Config :=
  match readContent content with
  | some config => .ok config
  | none => .error notUnderstood

/-- The target that is set; an unknown one is a failure only now. -/
def target? (config : Config) : Except Failure (Option Target) :=
  match config.target with
  | none => .ok none
  | some name =>
      match Target.ofName? name with
      | some target => .ok (some target)
      | none => .error ⟨["Invalid target in config"], Target.unknownMessage name⟩

/-- There is never a password in a configuration file. -/
def credentials (config : Config) : Credentials where
  host := config.host.getD ""
  email := config.email.getD ""

end Config

end CollectionTypes
