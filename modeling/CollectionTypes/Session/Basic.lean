import CollectionTypes.Client.Basic
import CollectionTypes.Credentials.Sealed
import CollectionTypes.Directory.Tree
import CollectionTypes.Failure
import CollectionTypes.Prompt.Terminal

/-!
What a command works with: a server behind a wire, a terminal, files, and variables of the
environment. A command that fails leaves all of it as it was at that moment. Files can break off
while they are written; what else a disk may do to them is no part of this.
-/

namespace CollectionTypes

structure Session where
  wire : Wire
  terminal : Terminal := {}
  files : FileTree := {}
  /-- What goes wrong with the next files that are written, in order; with later ones nothing. -/
  interruptions : List (Option Interruption) := []
  environment : EnvFile.Environment := []
  /-- What was written to the standard output. -/
  output : String := ""
  /-- What the next sealing takes from chance, and its cost. -/
  sealing : Credentials.SealOptions

/-- What comes of writing a file next. -/
def Session.writeNext (session : Session) (path : String) (content : FileContent) :
    Except FileFault Unit × FileTree :=
  session.files.writeWith path content session.interruptions.head?.join

abbrev Run := ExceptT Failure (StateM Session)

namespace Run

def onWire {α : Type} (action : StateM Wire α) : Run α := fun session =>
  let (value, wire) := action session.wire
  (.ok value, { session with wire := wire })

def onTerminal {α : Type} (action : StateM Terminal α) : Run α := fun session =>
  let (value, terminal) := action session.terminal
  (.ok value, { session with terminal := terminal })

/-- Goes on with a value, or fails. -/
def orFail {α ε : Type} (failure : ε → Failure) : Except ε α → Run α
  | .ok value => pure value
  | .error error => throw (failure error)

def ask {α : Type} (dialogue : Dialogue α) : Run α := do
  orFail id (← onTerminal dialogue)

def note (level : Log.Level) (text : String) : Run Unit := onWire (Wire.note level text)

def warn (texts : List String) : Run Unit := texts.forM (note .warn)

def write (text : String) : Run Unit :=
  modify fun session => { session with output := session.output ++ text }

def fileFailure (context : String) (fault : FileFault) : Failure := ⟨[context], fault.message⟩

def clientFailure (context : String) (error : ClientError) : Failure := ⟨[context], error.message⟩

/-- Files change only if the change succeeds. -/
def changeFiles (failure : FileFault → Failure)
    (change : FileTree → Except FileFault FileTree) : Run Unit := do
  let files ← orFail failure (change (← get).files)
  modify fun session => { session with files := files }

/-- What was written before an interruption stays. -/
def putFile (failure : FileFault → Failure) (path : String) (content : FileContent) :
    Run Unit := do
  let session ← get
  let (result, files) := session.writeNext path content
  set { session with files := files, interruptions := session.interruptions.tail }
  orFail failure result

/-- Directories made before a failure stay. -/
def makeDirectories (failure : FileFault → Failure) (path : String) : Run Unit := do
  let (result, files) := (← get).files.makeDirectories path
  modify fun session => { session with files := files }
  orFail failure result

end Run

end CollectionTypes
