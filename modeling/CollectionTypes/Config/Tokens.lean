import CollectionTypes.Config.Quoted
import CollectionTypes.Text.Basic

/-!
The tokens of a configuration file. Comments and blanks between tokens are dropped; a line end is a
token, except between brackets.
-/

namespace CollectionTypes.Config

inductive Token where
  /-- Letters, digits, underscores and hyphens without quotes. -/
  | word (letters : List Char)
  | text (value : List Char) (multiline : Bool)
  | equals
  | opening
  | closing
  | comma
  | lineEnd
deriving DecidableEq, Repr

def isWordLetter (letter : Char) : Bool :=
  letter.isAlphanum || letter = '_' || letter = '-'

def sign? : Char → Option Token
  | '=' => some .equals
  | '[' => some .opening
  | ']' => some .closing
  | ',' => some .comma
  | '\n' => some .lineEnd
  | _ => none

/-- The tokens of the letters that are left; nothing if some of them belong to no token. -/
def tokens (letters : List Char) : Option (List Token) :=
  match letters with
  | [] => some []
  | letter :: rest =>
      if isSpace letter then tokens rest
      else if letter = '#' then tokens (rest.dropWhile isPlain)
      else if isWordLetter letter then
        (tokens (rest.dropWhile isWordLetter)).map
          (.word (letter :: rest.takeWhile isWordLetter) :: ·)
      else
        match sign? letter with
        | some sign => (tokens rest).map (sign :: ·)
        | none =>
            match _found : readText (letter :: rest) with
            | some (value, multiline, suffix) =>
                (tokens suffix).map (.text value multiline :: ·)
            | none => none
termination_by letters.length
decreasing_by
  · simp
  · exact Nat.lt_succ_of_le (List.dropWhile_sublist _).length_le
  · exact Nat.lt_succ_of_le (List.dropWhile_sublist _).length_le
  · simp
  · exact readText_length _found

/-- Drops line ends between brackets. -/
def joinLists (inside : Bool) : List Token → List Token
  | [] => []
  | .opening :: rest => .opening :: joinLists true rest
  | .closing :: rest => .closing :: joinLists false rest
  | .lineEnd :: rest => if inside then joinLists true rest else .lineEnd :: joinLists false rest
  | token :: rest => token :: joinLists inside rest

/-- Line ends in two letters become line feeds. -/
def unifyLineEnds : List Char → List Char
  | [] => []
  | '\r' :: '\n' :: rest => '\n' :: unifyLineEnds rest
  | letter :: rest => letter :: unifyLineEnds rest

/-- Drops the mark that may stand before everything else. -/
def dropMark : List Char → List Char
  | '\ufeff' :: rest => rest
  | letters => letters

/-- The tokens of each line; a list is always within one line. -/
def tokenLines (content : String) : Option (List (List Token)) :=
  (tokens (unifyLineEnds (dropMark content.toList))).map fun all =>
    Text.pieces (· = .lineEnd) (joinLists false all)

end CollectionTypes.Config
