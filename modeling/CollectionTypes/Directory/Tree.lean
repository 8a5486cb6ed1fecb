import CollectionTypes.Directory.Content
import CollectionTypes.Directory.Path

/-!
A tree of directories and files, and what can be done with a path in it. There are no links, and
nothing is forbidden. A failed operation says why; the tree is then as it was, except that
directories made on the way to a deeper one stay, and that a file is cut short if its writing breaks
off.
-/

namespace CollectionTypes

/-- Names from the root down. -/
abbrev Location := List String

inductive Node where
  | directory
  | file (content : FileContent)
deriving DecidableEq, Repr

structure FileTree where
  /-- All but the root, each location once. -/
  entries : List (Location × Node) := []
  /-- Where relative paths start. -/
  here : Location := []
deriving DecidableEq, Repr

/-- What can go wrong with a file that could be written: it is not opened, or its writing breaks off
after some bytes. -/
inductive Interruption where
  | unopened
  | brokenOff (count : Nat)
deriving DecidableEq, Repr

/-- Where a path leads to; all but its last name are directories that are there. -/
inductive Place where
  | found (location : Location) (node : Node)
  | missing (location : Location)
deriving DecidableEq, Repr

namespace FileTree

def node? (tree : FileTree) (location : Location) : Option Node :=
  if location.isEmpty then some .directory else tree.entries.lookup location

def erase (tree : FileTree) (location : Location) : FileTree :=
  { tree with entries := tree.entries.filter fun entry => entry.1 ≠ location }

def put (tree : FileTree) (location : Location) (node : Node) : FileTree :=
  { tree with entries := (location, node) :: (tree.erase location).entries }

/-- One step from a directory; the root is above itself. -/
def step (location : Location) (name : String) : Location :=
  if Path.isIdle name then location
  else if name = ".." then location.dropLast
  else location ++ [name]

/-- Follows names from a directory. -/
def walk (tree : FileTree) (location : Location) : List String → Except FileFault Place
  | [] => .ok (.found location .directory)
  | name :: rest =>
      let next := step location name
      match tree.node? next with
      | some .directory => walk tree next rest
      | some (.file content) =>
          if rest.isEmpty then .ok (.found next (.file content)) else .error .other
      | none => if rest.isEmpty then .ok (.missing next) else .error .notFound

def start (tree : FileTree) (path : String) : Location :=
  if Path.isAbsolute path then [] else tree.here

/-- The empty path leads nowhere, and no name contains a zero. -/
def check (path : String) : Except FileFault Unit :=
  if path.isEmpty then .error .notFound
  else if path.toList.contains '\x00' then .error .other
  else .ok ()

def place (tree : FileTree) (path : String) : Except FileFault Place := do
  check path
  tree.walk (tree.start path) (Path.names path)

def contains (tree : FileTree) (path : String) : Bool :=
  match tree.place path with
  | .ok (.found _ _) => true
  | _ => false

def read (tree : FileTree) (path : String) : Except FileFault FileContent := do
  match ← tree.place path with
  | .found _ (.file content) => .ok content
  | .found _ .directory => .error .other
  | .missing _ => .error .notFound

/-- Reads a file that has to be text as a whole. -/
def readText (tree : FileTree) (path : String) : Except FileFault String := do
  match (← tree.read path).text? with
  | some content => .ok content
  | none => .error .other

/-- Names without the empty ones at their end. -/
def dropSlashes (names : List String) : List String := Text.dropEnd (·.isEmpty) names

/-- Where a file can be written: a slash at the end asks for a directory. -/
def writable (tree : FileTree) (path : String) : Except FileFault Location := do
  check path
  let names := Path.names path
  match ← tree.walk (tree.start path) (dropSlashes names) with
  | .found _ .directory => .error .other
  | .found location (.file _) | .missing location =>
      if dropSlashes names = names then .ok location else .error .other

/-- What comes of a change: it has a result, or it changes nothing. -/
def settle (tree : FileTree) (result : Except FileFault Unit) :
    Except FileFault FileTree → Except FileFault Unit × FileTree
  | .ok after => (result, after)
  | .error fault => (.error fault, tree)

/-- Replaces the content of a file, or makes a new one. -/
def write (tree : FileTree) (path : String) (content : FileContent) :
    Except FileFault FileTree := do
  let location ← tree.writable path
  return tree.put location (.file content)

/-- Writes a file, unless something goes wrong. What the file held is gone once it is open. -/
def writeWith (tree : FileTree) (path : String) (content : FileContent) :
    Option Interruption → Except FileFault Unit × FileTree
  | none => tree.settle (.ok ()) (tree.write path content)
  | some .unopened => (.error .other, tree)
  | some (.brokenOff count) => tree.settle (.error .other) (tree.write path (content.take count))

/-- Removes a file. -/
def remove (tree : FileTree) (path : String) : Except FileFault FileTree := do
  match ← tree.place path with
  | .found location (.file _) => .ok (tree.erase location)
  | .found _ .directory => .error .other
  | .missing _ => .error .notFound

/-- Makes every directory along some names that is not there. -/
def makeAlong (tree : FileTree) (location : Location) :
    List String → Except FileFault Unit × FileTree
  | [] => (.ok (), tree)
  | name :: rest =>
      let next := step location name
      match tree.node? next with
      | some .directory => makeAlong tree next rest
      | some (.file _) => (.error .other, tree)
      | none => makeAlong (tree.put next .directory) next rest

def makeDirectories (tree : FileTree) (path : String) : Except FileFault Unit × FileTree :=
  match check path with
  | .error fault => (.error fault, tree)
  | .ok () => makeAlong tree (tree.start path) (Path.names path)

end FileTree

end CollectionTypes
