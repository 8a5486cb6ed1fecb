/-!
Cutting at separators and at ends, and white space of every script. Classes of letters are given by
tables of ranges of code points, both ends included. A text with `n` separators has `n + 1` pieces,
empty ones included.
-/

namespace CollectionTypes.Text

def inRanges (ranges : List (Nat × Nat)) (letter : Char) : Bool :=
  ranges.any fun (first, last) => first ≤ letter.toNat && letter.toNat ≤ last

def pieces {α : Type} (isSeparator : α → Bool) : List α → List (List α)
  | [] => [[]]
  | letter :: rest =>
      let following := pieces isSeparator rest
      if isSeparator letter then [] :: following
      else (letter :: following.headD []) :: following.tail

/-- Drops the longest suffix of which every element passes the test. -/
def dropEnd {α : Type} (test : α → Bool) (letters : List α) : List α :=
  (letters.reverse.dropWhile test).reverse

/-- The pieces of a text between the occurrences of a letter. -/
def split (separator : Char) (text : String) : List String :=
  (pieces (· = separator) text.toList).map String.ofList

def blankRanges : List (Nat × Nat) := [
    (0x9, 0xd), (0x20, 0x20), (0x85, 0x85), (0xa0, 0xa0), (0x1680, 0x1680), (0x2000, 0x200a),
    (0x2028, 0x2029), (0x202f, 0x202f), (0x205f, 0x205f), (0x3000, 0x3000)
  ]

def isBlank (letter : Char) : Bool := inRanges blankRanges letter

def dropBlanks (letters : List Char) : List Char := letters.dropWhile isBlank

def dropEndBlanks (letters : List Char) : List Char := dropEnd isBlank letters

def trimLetters (letters : List Char) : List Char := dropEndBlanks (dropBlanks letters)

def trim (text : String) : String := String.ofList (trimLetters text.toList)

end CollectionTypes.Text
