/-!
String literals in double quotes, in the form that TypeScript and Go share. The writer escapes the
quote, the backslash and the three common line controls and leaves all else as it is; the reader
takes one literal from the front of a text and gives back what follows it.
-/

namespace CollectionTypes.Text.Quoted

def encodeLetter : Char → List Char
  | '"' => ['\\', '"']
  | '\\' => ['\\', '\\']
  | '\n' => ['\\', 'n']
  | '\r' => ['\\', 'r']
  | '\t' => ['\\', 't']
  | letter => [letter]

def encode (letters : List Char) : List Char := letters.flatMap encodeLetter

def literalLetters (letters : List Char) : List Char := '"' :: encode letters ++ ['"']

def literal (value : String) : String := String.ofList (literalLetters value.toList)

def escapedLetter : Char → Option Char
  | '"' => some '"'
  | '\\' => some '\\'
  | 'n' => some '\n'
  | 'r' => some '\r'
  | 't' => some '\t'
  | _ => none

/-- Reads up to the closing quote; a raw line feed or carriage return cannot stand inside. -/
def readBody : List Char → Option (List Char × List Char)
  | [] => none
  | '"' :: rest => some ([], rest)
  | '\\' :: escaped :: rest => do
      let letter ← escapedLetter escaped
      let (letters, suffix) ← readBody rest
      some (letter :: letters, suffix)
  | letter :: rest =>
      if letter = '\\' || letter = '\n' || letter = '\r' then none
      else do
        let (letters, suffix) ← readBody rest
        some (letter :: letters, suffix)

def readLiteral : List Char → Option (List Char × List Char)
  | '"' :: rest => readBody rest
  | _ => none

end CollectionTypes.Text.Quoted
