import CollectionTypes.Directory.Content
import CollectionTypes.Text.Basic

/-!
Logical lines of an environment file. A scan of each physical line tells whether the line ends
there: an open quote, a backslash or a blank at its very end joins it to the next one. A comment
after a blank ends the line where it begins; a line that begins with a comment is empty.
-/

namespace CollectionTypes.EnvFile

/-- Why a file cannot be read further. -/
inductive Fault where
  | notText
  | badLine
deriving DecidableEq, Repr

inductive Scan where
  | complete
  | blank
  | escape
  | strong
  | strongEscape
  | weak
  | weakEscape
deriving DecidableEq, Repr

/-- How a physical line leaves the scan: at its end, or at a comment after some letters. -/
inductive ScanEnd where
  | at (state : Scan)
  | comment (before : Nat)
deriving DecidableEq, Repr

namespace Scan

def opened (otherwise : Scan) : Char → Scan
  | '\\' => .escape
  | '"' => .weak
  | '\'' => .strong
  | _ => otherwise

/-- The state after a letter; nothing where a comment begins. -/
def step (state : Scan) (letter : Char) : Option Scan :=
  match state with
  | .blank => if letter = '#' then none else some (opened .complete letter)
  | .escape => some .complete
  | .complete =>
      if Text.isBlank letter && letter ≠ '\n' && letter ≠ '\r' then some .blank
      else some (opened .complete letter)
  | .weak =>
      some (if letter = '\\' then .weakEscape else if letter = '"' then .complete else .weak)
  | .weakEscape => some .weak
  | .strong =>
      some (if letter = '\\' then .strongEscape else if letter = '\'' then .complete else .strong)
  | .strongEscape => some .strong

def run (state : Scan) (position : Nat) : List Char → ScanEnd
  | [] => .at state
  | letter :: rest =>
      match state.step letter with
      | none => .comment position
      | some next => next.run (position + 1) rest

end Scan

def startsComment (letters : List Char) : Bool := (Text.dropBlanks letters).head? == some '#'

def dropLineEnd (letters : List Char) : List Char :=
  match letters.reverse with
  | '\n' :: '\r' :: rest => rest.reverse
  | '\n' :: rest => rest.reverse
  | _ => letters

/-- Logical lines of the physical lines that are left; `joined` holds what the current one has so
far. Nothing is read after a fault. -/
def logicalLines (state : Scan) (joined : List Char) :
    List RawLine → List (List Char) × Option Fault
  | [] => if state = .complete then ([], none) else ([], some .badLine)
  | none :: _ => ([], some .notText)
  | some line :: rest =>
      let whole := joined ++ line
      if startsComment whole then
        let (lines, fault) := logicalLines .complete [] rest
        ([] :: lines, fault)
      else
        match state.run 0 line with
        | .comment before =>
            let (lines, fault) := logicalLines .complete [] rest
            ((joined ++ line.take before) :: lines, fault)
        | .at .complete =>
            let (lines, fault) := logicalLines .complete [] rest
            (dropLineEnd whole :: lines, fault)
        | .at next => logicalLines next whole rest

end CollectionTypes.EnvFile
