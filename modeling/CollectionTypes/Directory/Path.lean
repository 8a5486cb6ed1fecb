import CollectionTypes.Text.Basic
import CollectionTypes.Text.Escaped

/-!
Paths as they are written: names between slashes. Empty names and single dots stand for no step at
all; a path that begins with a slash starts at the root.
-/

namespace CollectionTypes.Path

def names (path : String) : List String := Text.split '/' path

def isAbsolute (path : String) : Bool := path.toList.head? == some '/'

def isIdle (name : String) : Bool := name == "" || name == "."

/-- Drops the steps at the end that lead nowhere. -/
def dropIdleEnd (names : List String) : List String := Text.dropEnd isIdle names

def join (names : List String) : String := "/".intercalate names

/-- The path without its last step, as it is written; empty for a single name. A path that is the
root has none. -/
def parent? (path : String) : Option String :=
  match names path with
  | [] => none
  | first :: rest =>
      let steps := dropIdleEnd rest
      let kept := dropIdleEnd steps.dropLast
      if isAbsolute path then
        if steps.isEmpty then none
        else if kept.isEmpty then some "/"
        else some (join (first :: kept))
      else if path.isEmpty then none
      else if steps.isEmpty then some ""
      else some (join (first :: kept))

/-- The directory that has to be there before a file can be written, if it is not this one. -/
def directory? (path : String) : Option String :=
  (parent? path).filter fun parent => !parent.isEmpty

/-- Single quotes are escaped too. -/
def escapeLetter (letter : Char) : List Char :=
  if letter = '\'' then ['\\', '\''] else Text.Escaped.escapeLetter letter

/-- A path for messages. -/
def display (path : String) : String :=
  String.ofList ('"' :: path.toList.flatMap escapeLetter ++ ['"'])

end CollectionTypes.Path
