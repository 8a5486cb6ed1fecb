import CollectionTypes.CommandLine.Option

/-!
Reading options from arguments. A value may be attached to its option, or be the next argument
unless that begins with a hyphen; such a value is looked at only when the next option is complete,
so that an unknown option behind it is noticed first.
-/

namespace CollectionTypes.CommandLine

structure Reading where
  /-- In the order in which they came; switches have an empty value. -/
  given : List (OptionName × String) := []
  /-- An option whose value is still to come, or still to be looked at. -/
  pending : Option (OptionName × Option String) := none
deriving DecidableEq, Repr

namespace Reading

def has (reading : Reading) (name : OptionName) : Bool := reading.given.any (·.1 == name)

def value? (reading : Reading) (name : OptionName) : Option String := reading.given.lookup name

def values (reading : Reading) (name : OptionName) : List String :=
  (reading.given.filter (·.1 == name)).map (·.2)

/-- Takes an option with its value. -/
def record (reading : Reading) (name : OptionName) (value : String) :
    Except UsageFault Reading := do
  if name = .help then throw .help
  if name = .version then throw .version
  if name.form ≠ .names && reading.has name then throw .conflict
  name.checkValue value
  return { reading with given := reading.given ++ [(name, value)] }

/-- Takes the option that is pending. -/
def settle (reading : Reading) : Except UsageFault Reading :=
  match reading.pending with
  | none => .ok reading
  | some (_, none) => .error .invalidValue
  | some (name, some value) => record { reading with pending := none } name value

def accept (reading : Reading) (name : OptionName) (value : String) :
    Except UsageFault Reading := do
  (← reading.settle).record name value

def await (reading : Reading) (name : OptionName) : Except UsageFault Reading := do
  return { (← reading.settle) with pending := some (name, none) }

/-- An option in words, with its value if there is an equals sign. -/
def long (options : List OptionName) (reading : Reading) (body : List Char) :
    Except UsageFault Reading :=
  let name := String.ofList (body.takeWhile (· ≠ '='))
  let attached := (body.dropWhile (· ≠ '=')).tail?.map String.ofList
  match options.find? (·.long == name), attached with
  | none, _ => .error .unknownArgument
  | some option, some value =>
      if option.form = .switch then .error .unexpectedValue else reading.accept option value
  | some option, none =>
      if option.form = .switch then reading.accept option "" else reading.await option

def dropEquals : List Char → List Char
  | '=' :: rest => rest
  | letters => letters

/-- Switches in single letters; what follows the letter of any other option is its value. -/
def short (options : List OptionName) (reading : Reading) :
    List Char → Except UsageFault Reading
  | [] => .ok reading
  | letter :: rest =>
      match options.find? (·.short? == some letter) with
      | none => .error .unknownArgument
      | some option =>
          if option.form = .switch then do
            let next ← reading.accept option ""
            short options next rest
          else if rest.isEmpty then reading.await option
          else reading.accept option (String.ofList (dropEquals rest))

/-- Reads up to one of the words, and gives back the arguments from there on. -/
def arguments (options : List OptionName) (words : List String) (reading : Reading) :
    List String → Except UsageFault (Reading × List String)
  | [] => .ok (reading, [])
  | argument :: rest =>
      let stray := if words.isEmpty then UsageFault.unknownArgument else .unknownCommand
      match argument.toList with
      | ['-', '-'] =>
          match rest with
          | [] => .ok (reading, [])
          | next :: _ => .error (if words.contains next then .unknownArgument else stray)
      | '-' :: '-' :: body => do arguments options words (← reading.long options body) rest
      | '-' :: letter :: body => do
          arguments options words (← reading.short options (letter :: body)) rest
      | _ =>
          match reading.pending with
          | some (name, none) =>
              arguments options words { reading with pending := some (name, some argument) } rest
          | _ => if words.contains argument then .ok (reading, argument :: rest) else .error stray

end Reading

end CollectionTypes.CommandLine
