/-!
The contents of files: text, or bytes that are not text. A file is read as a whole, or line by line
with each line checked on its own. Of the faults of files only a missing one is told apart.
-/

namespace CollectionTypes

inductive FileFault where
  | notFound
  | other
deriving DecidableEq, Repr

def FileFault.message : FileFault → String
  | .notFound => "<not found>"
  | .other => "<io>"

inductive FileContent where
  | text (text : String)
  | binary (bytes : List UInt8)
deriving DecidableEq, Repr

/-- A line with its line feed, if it has one; nothing for a line that is not text. -/
abbrev RawLine := Option (List Char)

namespace FileContent

def ofBytes (bytes : List UInt8) : FileContent :=
  match String.fromUTF8? ⟨bytes.toArray⟩ with
  | some letters => .text letters
  | none => .binary bytes

def bytes : FileContent → List UInt8
  | .text whole => whole.toUTF8.data.toList
  | .binary bytes => bytes

/-- The first bytes of a content; a letter may be cut in two. -/
def take (content : FileContent) (count : Nat) : FileContent := ofBytes (content.bytes.take count)

def text? : FileContent → Option String
  | .text whole => some whole
  | .binary _ => none

/-- Cuts after each line end; only the last part may lack one. -/
def cutLines {α : Type} (isLineEnd : α → Bool) : List α → List (List α)
  | [] => []
  | letter :: rest =>
      if isLineEnd letter then [letter] :: cutLines isLineEnd rest
      else
        match cutLines isLineEnd rest with
        | [] => [[letter]]
        | line :: lines => (letter :: line) :: lines

def lettersOfBytes (bytes : List UInt8) : RawLine :=
  (String.fromUTF8? ⟨bytes.toArray⟩).map (·.toList)

def lines : FileContent → List RawLine
  | .text whole => (cutLines (· = '\n') whole.toList).map some
  | .binary bytes => (cutLines (· = 10) bytes).map lettersOfBytes

end FileContent

end CollectionTypes
