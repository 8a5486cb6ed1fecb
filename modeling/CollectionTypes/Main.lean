import CollectionTypes.Session.Commands

/-!
The program: it gathers what a run may look at, lets the run happen, and carries out what came of
it. The input is read as a whole before the first question, only where there may be questions.
Hidden questions stay without an answer, and so does every request: there is no connection here.
-/

namespace CollectionTypes.Program

def usage : String :=
  "Usage: " ++ programName ++ " [OPTIONS] <COMMAND> [OPTIONS]\n\nCommands:\n" ++
    "  generate  Generate code for the selected collections\n" ++
    "  inspect   Print the selected collections and their interpreted properties\n"

def bytesOf : FileContent → ByteArray
  | .text whole => whole.toUTF8
  | .binary bytes => ⟨bytes.toArray⟩

def variableOf (letters : List Char) : String × String :=
  (String.ofList (letters.takeWhile (· ≠ '=')),
    String.ofList ((letters.dropWhile (· ≠ '=')).drop 1))

def readEnvironment : IO EnvFile.Environment := do
  let bytes ← try IO.FS.readBinFile "/proc/self/environ" catch _ => pure .empty
  return (Text.pieces (· = 0) bytes.toList).filterMap fun piece =>
    (FileContent.lettersOfBytes piece).map variableOf

/-- Adds what is there on disk; a file that cannot be read is no text. -/
def addPlace (tree : FileTree) (location : Location) : IO FileTree := do
  let path := (← IO.currentDir) / ("/" ++ Path.join location)
  if ← path.isDir then return tree.put location .directory
  if !(← path.pathExists) then return tree
  let bytes ← try IO.FS.readBinFile path catch _ => pure ⟨#[0xff]⟩
  return tree.put location (.file (.ofBytes bytes.toList))

/-- Every place along some names. -/
def placesAlong (location : Location) : List String → List Location
  | [] => []
  | name :: rest =>
      let next := FileTree.step location name
      next :: placesAlong next rest

def addPath (tree : FileTree) (path : String) : IO FileTree :=
  ((placesAlong (tree.start path) (Path.names path)).filter (!·.isEmpty)).foldlM addPlace tree

def startTree : IO FileTree := do
  let here := (Path.names (← IO.currentDir).toString).filter (!·.isEmpty)
  (placesAlong [] here).foldlM addPlace { here := here }

/-- The paths that are known before the configuration is. -/
def pathsOf (invocation : Invocation) : List String :=
  let source := invocation.command.source
  invocation.config.getD Config.defaultPath :: source.credentialsFile ::
    source.encryptedCredentialsFile :: source.schema.toList

def outputPath (invocation : Invocation) (session : Session) : Option String :=
  let configured := match Run.loadConfig invocation.config session with
    | (.ok config, _) => config.output
    | (.error _, _) => none
  match invocation.command with
  | .generate _ output => output.output <|> configured
  | .inspect _ => none

def mayAsk (invocation : Invocation) : Bool :=
  let source := invocation.command.source
  source.interactive || source.schema.isNone

def readInput (invocation : Invocation) : IO (List RawLine) := do
  if !mayAsk invocation then return []
  return (FileContent.ofBytes (← (← IO.getStdin).readBinToEnd).toList).lines

def gather (session : Session) (invocation : Invocation) : IO Session := do
  let files ← (pathsOf invocation).foldlM addPath (← startTree)
  let session := { session with files, terminal := { input := ← readInput invocation } }
  let files ← (outputPath invocation session).toList.foldlM addPath files
  return { session with files }

/-- Makes the disk what the files have become. -/
def carryOut (before after : FileTree) : IO Unit := do
  let root ← IO.currentDir
  for (location, node) in after.entries.reverse do
    if before.node? location ≠ some node then
      let path := root / ("/" ++ Path.join location)
      match node with
      | .directory => IO.FS.createDir path
      | .file content => IO.FS.writeBinFile path (bytesOf content)
  for (location, _) in before.entries do
    if (after.node? location).isNone then IO.FS.removeFile (root / ("/" ++ Path.join location))

def startSession : IO Session := do
  let salt ← IO.getRandomBytes 32
  let nonce ← IO.getRandomBytes 12
  return {
    wire := { server := fun _ => .dropped }
    environment := ← readEnvironment
    sealing := { salt := salt.toList, nonce := nonce.toList } }

def tell (ending : Ending) : IO Unit := do
  match ending with
  | .done | .refused .version => return
  | .failed failure => IO.eprint failure.report
  | .refused .help => IO.print usage
  | .refused fault => IO.eprint ("error: " ++ fault.message ++ "\n\n" ++ usage)

end CollectionTypes.Program

open CollectionTypes in
def main (arguments : List String) : IO UInt32 := do
  let start ← Program.startSession
  let session ← match CommandLine.parse start.environment arguments with
    | .ok invocation => Program.gather start invocation
    | .error _ => pure start
  let (ending, after) := session.run arguments
  Program.carryOut session.files after.files
  IO.eprint after.terminal.shown
  for entry in after.shownLog arguments do
    IO.eprintln entry.write
  IO.print after.output
  Program.tell ending
  return ending.exitCode.toUInt32
