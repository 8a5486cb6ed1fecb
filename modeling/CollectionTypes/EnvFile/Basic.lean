import CollectionTypes.EnvFile.Line
import CollectionTypes.Text.Alphanumeric

/-!
Entries of an environment file: a key, an equals sign and a value. Values may be quoted, weakly with
escapes and substitutions or strongly without, and refer to the process environment and to earlier
entries of the file by name.
-/

namespace CollectionTypes.EnvFile

/-- Names with their values. -/
abbrev Environment := List (String × String)

/-- Where the reader of a value stands. -/
inductive Mode where
  | plain
  | escaped
  | strong
  /-- The value is over; blanks and a comment may follow. -/
  | ending
  /-- In a name after a dollar sign. -/
  | name (letters : List Char)
  /-- In a name in braces. -/
  | braced (letters : List Char)
deriving DecidableEq, Repr

def isKeyStart (letter : Char) : Bool := letter.isAlpha || letter = '_'

def isKeyPart (letter : Char) : Bool := letter.isAlphanum || letter = '_' || letter = '.'

/-- The letter that an escape stands for. -/
def escapedLetter : Char → Option Char
  | '\\' => some '\\'
  | '\'' => some '\''
  | '"' => some '"'
  | '$' => some '$'
  | ' ' => some ' '
  | 'n' => some '\n'
  | _ => none

/-- What ends the value well: no quote and no brace may be open. A name that is open is complete,
and a backslash at the end is dropped. -/
def finish (lookup : List Char → List Char) (weak : Bool) : Mode → Option (List Char)
  | .name letters => if weak then none else some (lookup letters)
  | .plain | .escaped | .ending => if weak then none else some []
  | .strong | .braced _ => none

/-- The value of the letters from here on; `weak` says that a weak quote is open. -/
def readValue (lookup : List Char → List Char) (weak : Bool) (mode : Mode) :
    List Char → Option (List Char)
  | [] => finish lookup weak mode
  | letter :: rest =>
      match mode with
      | .ending =>
          if letter = ' ' || letter = '\t' then readValue lookup weak .ending rest
          else if letter = '#' then finish lookup weak .ending
          else none
      | .escaped => do
          let value ← escapedLetter letter
          return value :: (← readValue lookup weak .plain rest)
      | .strong =>
          if letter = '\'' then readValue lookup weak .plain rest
          else do return letter :: (← readValue lookup weak .strong rest)
      | .name letters =>
          if Text.isAlphanumeric letter then
            readValue lookup weak (.name (letters ++ [letter])) rest
          else if letter = '\x7b' && letters.isEmpty then readValue lookup weak (.braced []) rest
          else if letter = '$' then do
            return lookup letters ++ (← readValue lookup weak (.name []) rest)
          else do return lookup letters ++ letter :: (← readValue lookup weak .plain rest)
      | .braced letters =>
          if letter = '\x7d' then do
            return lookup letters ++ (← readValue lookup weak .plain rest)
          else readValue lookup weak (.braced (letters ++ [letter])) rest
      | .plain =>
          if letter = '$' then readValue lookup weak (.name []) rest
          else if letter = '\\' then readValue lookup weak .escaped rest
          else if letter = '"' then readValue lookup (!weak) .plain rest
          else if weak then do return letter :: (← readValue lookup weak .plain rest)
          else if letter = '\'' then readValue lookup weak .strong rest
          else if letter = ' ' || letter = '\t' then readValue lookup weak .ending rest
          else do return letter :: (← readValue lookup weak .plain rest)

def readKey (letters : List Char) : Option (List Char × List Char) :=
  match letters with
  | [] => none
  | first :: _ =>
      if isKeyStart first then some (letters.takeWhile isKeyPart, letters.dropWhile isKeyPart)
      else none

def readEquals : List Char → Option (List Char)
  | '=' :: rest => some rest
  | _ => none

/-- A key and what follows its equals sign. The word `export` may stand before the key. -/
def readKeyEquals (letters : List Char) : Option (List Char × List Char) := do
  let (key, rest) ← readKey letters
  let rest := Text.dropBlanks rest
  match readEquals rest with
  | some value => return (key, value)
  | none =>
      if key = "export".toList then do
        let (key, rest) ← readKey rest
        return (key, ← readEquals (Text.dropBlanks rest))
      else none

/-- The entry of a logical line, nothing in an empty one. -/
def readEntry (lookup : List Char → List Char) (line : List Char) :
    Except Fault (Option (String × String)) :=
  let letters := Text.dropBlanks (Text.dropEndBlanks line)
  if letters.isEmpty || startsComment letters then .ok none
  else
    match readKeyEquals letters with
    | none => .error .badLine
    | some (key, rest) =>
        let rest := Text.dropBlanks rest
        if rest.isEmpty || startsComment rest then .ok (some (String.ofList key, ""))
        else
          match readValue lookup false .plain rest with
          | none => .error .badLine
          | some value => .ok (some (String.ofList key, String.ofList value))

/-- The process environment first, then the last entry of the name so far, then nothing. The
latest entry comes first in `earlier`. -/
def lookupName (environment earlier : Environment) (name : List Char) : List Char :=
  let name := String.ofList name
  ((environment.lookup name).getD ((earlier.lookup name).getD "")).toList

/-- The entries of logical lines up to the first fault. -/
def readEntries (environment earlier : Environment) :
    List (List Char) × Option Fault → List (String × String) × Option Fault
  | ([], fault) => ([], fault)
  | (line :: lines, fault) =>
      match readEntry (lookupName environment earlier) line with
      | .error found => ([], some found)
      | .ok none => readEntries environment earlier (lines, fault)
      | .ok (some entry) =>
          let (entries, ending) := readEntries environment (entry :: earlier) (lines, fault)
          (entry :: entries, ending)

/-- All entries in order, up to the first fault. -/
def entries (environment : Environment) (lines : List RawLine) :
    List (String × String) × Option Fault :=
  readEntries environment [] (logicalLines .complete [] lines)

/-! Writing. -/

def encodeLetter : Char → List Char
  | '\\' => ['\\', '\\']
  | '"' => ['\\', '"']
  | '$' => ['\\', '$']
  | '\n' => ['\\', 'n']
  | letter => [letter]

/-- A value in weak quotes. -/
def quoteLetters (value : List Char) : List Char := '"' :: value.flatMap encodeLetter ++ ['"']

def quote (value : String) : String := String.ofList (quoteLetters value.toList)

end CollectionTypes.EnvFile
