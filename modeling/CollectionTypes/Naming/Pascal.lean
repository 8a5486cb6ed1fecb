import CollectionTypes.Text.Basic

/-!
Names made of the ASCII letters and digits of a text. A letter is capitalized at the start, after a
digit and after a separator; every other character is dropped and joins the letters around it.
-/

namespace CollectionTypes.Naming

def isSeparator (letter : Char) : Bool :=
  letter = '_' || letter = '-' || letter = '.' || letter = ' '

/-- `capital` says whether the next letter is capitalized. -/
def pascalFrom (capital : Bool) : List Char → List Char
  | [] => []
  | letter :: rest =>
      if letter.isAlpha then (if capital then letter.toUpper else letter) :: pascalFrom false rest
      else if letter.isDigit then letter :: pascalFrom true rest
      else pascalFrom (isSeparator letter) rest

def pascalLetters (text : String) : List Char := pascalFrom true (Text.trimLetters text.toList)

def pascal (text : String) : String := String.ofList (pascalLetters text)

def camelLetters (text : String) : List Char :=
  match pascalLetters text with
  | [] => []
  | first :: rest => first.toLower :: rest

def camel (text : String) : String := String.ofList (camelLetters text)

/-- A name that is not empty and does not begin with a digit: a text without usable letters is
named `blank`, and a leading digit is put after `lead`. -/
def leadingLetter (blank lead : String) (name : List Char) : String :=
  match name with
  | [] => blank
  | first :: _ => if first.isDigit then lead ++ String.ofList name else String.ofList name

end CollectionTypes.Naming
