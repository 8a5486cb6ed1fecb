import CollectionTypes.Directory.Content
import CollectionTypes.Failure
import CollectionTypes.Text.Basic
import CollectionTypes.Text.Escaped

/-!
Questions to the user. A question is shown, and the next line of the input answers it; hidden
questions, for passwords, are answered from elsewhere, and what is shown of them does not count.
-/

namespace CollectionTypes

structure Terminal where
  /-- The lines that are still to be read. -/
  input : List RawLine := []
  shown : String := ""
  /-- The answers to hidden questions that are still to be given. -/
  secrets : List String := []
deriving DecidableEq, Repr

/-- What talks to the user, and may fail. What was asked until then stays asked. -/
abbrev Dialogue := ExceptT Failure (StateM Terminal)

namespace Terminal

def write (terminal : Terminal) (text : String) : Terminal :=
  { terminal with shown := terminal.shown ++ text }

def questionText (question : String) (default : Option String) : String :=
  match default with
  | some value => question ++ " [" ++ value ++ "]: "
  | none => question ++ ": "

def inputClosed (question : String) : Failure :=
  { cause := "No answer to " ++ Text.Escaped.display question ++ ": input is closed" }

def answerNotText : Failure := ⟨["Failed to read answer"], FileFault.other.message⟩

/-- The answer without blanks around it; the default in place of an empty one. -/
def ask (question : String) (default : Option String) (terminal : Terminal) :
    Except Failure String × Terminal :=
  let asked := terminal.write (questionText question default)
  match asked.input with
  | [] => (.error (inputClosed question), asked)
  | none :: rest => (.error answerNotText, { asked with input := rest })
  | some line :: rest =>
      let answer := Text.trim (String.ofList line)
      (.ok (if answer.isEmpty then default.getD "" else answer), { asked with input := rest })

theorem input_lt_of_ask {question : String} {default : Option String}
    {terminal rest : Terminal} {answer : String}
    (answered : ask question default terminal = (.ok answer, rest)) :
    rest.input.length < terminal.input.length := by
  simp only [ask, write] at answered
  cases lines : terminal.input with
  | nil => simp [lines] at answered
  | cons line others =>
      cases line with
      | none => simp [lines] at answered
      | some letters =>
          simp only [lines, Prod.mk.injEq] at answered
          rw [← answered.2]
          simp

/-- Asks again after each empty answer. -/
def askUntilGiven (question : String) (terminal : Terminal) : Except Failure String × Terminal :=
  match _asked : ask question none terminal with
  | (.error failure, rest) => (.error failure, rest)
  | (.ok answer, rest) => if answer.isEmpty then askUntilGiven question rest else (.ok answer, rest)
termination_by terminal.input.length
decreasing_by exact input_lt_of_ask _asked

/-- The answer to a hidden question about something. -/
def askHidden (subject : String) (terminal : Terminal) : Except Failure String × Terminal :=
  match terminal.secrets with
  | [] => (.error ⟨["Failed to read " ++ subject], FileFault.other.message⟩, terminal)
  | secret :: rest => (.ok secret, { terminal with secrets := rest })

end Terminal

end CollectionTypes
