import CollectionTypes.Json.Fault

/-!
Values as text without blanks. Strings escape the quote, the backslash and the controls below the
space; all other letters stand as they are.
-/

namespace CollectionTypes.Json.Writer

def escapeLetter (letter : Char) : List Char :=
  match letter with
  | '"' => ['\\', '"']
  | '\\' => ['\\', '\\']
  | '\x08' => ['\\', 'b']
  | '\x0c' => ['\\', 'f']
  | '\n' => ['\\', 'n']
  | '\r' => ['\\', 'r']
  | '\t' => ['\\', 't']
  | _ =>
      if letter.toNat < 0x20 then
        ['\\', 'u', '0', '0', Text.Hexadecimal.digit (letter.toNat / 16),
          Text.Hexadecimal.digit (letter.toNat % 16)]
      else [letter]

def textLetters (text : String) : List Char := '"' :: text.toList.flatMap escapeLetter ++ ['"']

def numberLetters (number : Number) : List Char := number.write.toList

mutual

def letters : Value → List Char
  | .null => ['n', 'u', 'l', 'l']
  | .flag true => ['t', 'r', 'u', 'e']
  | .flag false => ['f', 'a', 'l', 's', 'e']
  | .number number => numberLetters number
  | .text text => textLetters text
  | .array elements => '[' :: elementLetters true elements
  | .object entries => '\x7b' :: entryLetters true entries

/-- The elements that are left, and the closing bracket. -/
def elementLetters (first : Bool) : List Value → List Char
  | [] => [']']
  | value :: rest => (if first then [] else [',']) ++ letters value ++ elementLetters false rest

def entryLetters (first : Bool) : List (String × Value) → List Char
  | [] => ['\x7d']
  | (key, value) :: rest =>
      (if first then [] else [',']) ++ textLetters key ++ ':' :: letters value ++
        entryLetters false rest

end

def write (value : Value) : String := String.ofList (letters value)

end CollectionTypes.Json.Writer
