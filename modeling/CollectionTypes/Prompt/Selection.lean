import CollectionTypes.Prompt.Terminal
import CollectionTypes.Selection.Policy
import CollectionTypes.Text.Basic
import CollectionTypes.Text.Digits

/-!
Choosing collections by hand: from a numbered list, by numbers or names.
-/

namespace CollectionTypes

inductive SelectionError where
  | io (fault : FileFault)
  | invalid (input reason : String)
deriving DecidableEq, Repr

def SelectionError.message : SelectionError → String
  | .io fault => "IO error: " ++ fault.message
  | .invalid input reason => "invalid selection '" ++ input ++ "': " ++ reason

namespace Selection

def isSeparator (letter : Char) : Bool := letter = ',' || letter = ' '

def tokens (answer : List Char) : List (List Char) :=
  (Text.pieces isSeparator answer).filter fun token => !token.isEmpty

/-- Numbers have 64 bits; a longer one is taken for a name. -/
def numberBound : Nat := Nat.pow 2 64

def number? (token : List Char) : Option Nat :=
  (Text.Decimal.parseSigned token).filter (· < numberBound)

def positionOfName? (collections : List Collection) (name : String) : Option Nat :=
  collections.findIdx? fun collection => sameIgnoringAsciiCase collection.name name

/-- The position that a number, counted from 1, or a name stands for. -/
def position (collections : List Collection) (token : List Char) : Except SelectionError Nat :=
  match number? token with
  | some number =>
      if 1 ≤ number ∧ number ≤ collections.length then .ok (number - 1)
      else .error (.invalid (String.ofList token) "number out of range")
  | none =>
      match positionOfName? collections (String.ofList token) with
      | some index => .ok index
      | none => .error (.invalid (String.ofList token) "unknown collection")

def inOrder (count : Nat) (chosen : Nat → Bool) : List Nat := (List.range count).filter chosen

/-- Positions that no answer at all selects. -/
def preselected (collections : List Collection) : List Nat :=
  inOrder collections.length fun index => collections[index]?.any fun collection =>
    !collection.system

/-- The positions an answer stands for, in list order. -/
def parse (answer : String) (collections : List Collection) : Except SelectionError (List Nat) := do
  let answer := Text.trim answer
  if answer.isEmpty then return preselected collections
  else if sameIgnoringAsciiCase answer "all" then return List.range collections.length
  else
    let positions ← (tokens answer.toList).mapM (position collections)
    return inOrder collections.length positions.contains

/-! The conversation. -/

def padNumber (number : Nat) : String :=
  let digits := Text.Decimal.write number
  if number < 10 then " " ++ digits else digits

def lineOf (number : Nat) (collection : Collection) : String :=
  let mark := if collection.system then " " else "x"
  "  [" ++ mark ++ "] " ++ padNumber number ++ ". " ++ collection.describe ++ "\n"

def question (collections : List Collection) : String :=
  "Collections:\n" ++
    String.join (collections.zipIdx.map fun (collection, index) => lineOf (index + 1) collection) ++
    "Select collections (numbers or names, comma separated; 'all'; empty keeps [x]): "

/-- The collections at the positions that an answer stands for. -/
def pick (answer : String) (collections : List Collection) :
    Except SelectionError (List Collection) :=
  (parse answer collections).map fun positions => positions.filterMap (collections[·]?)

/-- A closed input is an empty answer. -/
def choose (collections : List Collection) (terminal : Terminal) :
    Except SelectionError (List Collection) × Terminal :=
  let asked := terminal.write (question collections)
  match asked.input with
  | [] => (pick "" collections, asked)
  | none :: rest => (.error (.io .other), { asked with input := rest })
  | some line :: rest => (pick (String.ofList line) collections, { asked with input := rest })

end Selection

end CollectionTypes
