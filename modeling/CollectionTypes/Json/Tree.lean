import CollectionTypes.Json.Fault
import CollectionTypes.Json.NumberText
import CollectionTypes.Text.Digits

/-!
The text of a document as a tree in text order, with faults at the places where they stand. A tree
keeps repeated keys, numbers out of range and escapes that name no code point, so that a reader can
decide which of them matter: `Tree.value` wants a whole value without any fault, `Tree.skip` only
passes over a part that nobody asks for. What follows a fault is not read.
-/

namespace CollectionTypes.Json

open Text.Decimal (isDigit)

/-- A string: its letters, if the escapes in it name code points. -/
abbrev Letters := Except Fault String

mutual

inductive Tree where
  | null
  | flag (value : Bool)
  | number (text : NumberText)
  | text (letters : Letters)
  | array (elements : Elements)
  | object (members : Members)
  /-- The text is at fault here: what a reader of the value finds, and what one that skips it. -/
  | broken (read : Fault) (skipped : Fault)

inductive Elements where
  | done
  | cut (fault : Fault)
  | more (head : Tree) (tail : Elements)

inductive Members where
  | done
  | cut (fault : Fault)
  /-- A key that is at fault, as a reader of it finds and as one that skips it. -/
  | cutKey (read : Fault) (skipped : Fault)
  | more (key : Letters) (value : Tree) (tail : Members)

end

deriving instance Inhabited for Tree, Elements, Members

namespace Tree

def skipBlanks : List Char → List Char
  | ' ' :: rest => skipBlanks rest
  | '\t' :: rest => skipBlanks rest
  | '\n' :: rest => skipBlanks rest
  | '\r' :: rest => skipBlanks rest
  | letters => letters

/-- Text that ends where more is needed is unfinished, any other is malformed. -/
def faultAt : List Char → Fault
  | [] => .unfinished
  | _ => .malformed

/-- Takes the given letters from the front. -/
def readWord : List Char → List Char → Except Fault (List Char)
  | [], letters => .ok letters
  | wanted :: word, letter :: rest =>
      if letter = wanted then readWord word rest else .error .malformed
  | _ :: _, [] => .error .unfinished

/-- Digits and what follows them; there has to be one at least. -/
def readDigits (letters : List Char) : Except Fault (List Char × List Char) :=
  let digits := letters.takeWhile isDigit
  let rest := letters.dropWhile isDigit
  if digits.isEmpty then .error (faultAt rest) else .ok (digits, rest)

/-- A number may not begin with a zero that more digits follow. -/
def readWhole (letters : List Char) : Except Fault (List Char × List Char) :=
  match letters with
  | '0' :: letter :: rest =>
      if isDigit letter then .error .malformed else .ok (['0'], letter :: rest)
  | _ => readDigits letters

def readExponent (letters : List Char) : Except Fault ((Bool × List Char) × List Char) := do
  let (negative, unsigned) := match letters with
    | '-' :: rest => (true, rest)
    | '+' :: rest => (false, rest)
    | _ => (false, letters)
  let (digits, rest) ← readDigits unsigned
  return ((negative, digits), rest)

/-- The digits behind a point, if there is one. -/
def readFraction (letters : List Char) : Except Fault (Option (List Char) × List Char) :=
  match letters with
  | '.' :: rest => do
      let (digits, after) ← readDigits rest
      return (some digits, after)
  | _ => .ok (none, letters)

/-- The exponent behind its mark, if there is one. -/
def readPower (letters : List Char) : Except Fault (Option (Bool × List Char) × List Char) :=
  match letters with
  | 'e' :: rest | 'E' :: rest => do
      let (parts, after) ← readExponent rest
      return (some parts, after)
  | _ => .ok (none, letters)

def readUnsigned (negative : Bool) (letters : List Char) :
    Except Fault (NumberText × List Char) := do
  let (whole, afterWhole) ← readWhole letters
  let (fraction, afterFraction) ← readFraction afterWhole
  let (exponent, afterExponent) ← readPower afterFraction
  return (⟨negative, whole, fraction, exponent⟩, afterExponent)

def readNumber (letters : List Char) : Except Fault (NumberText × List Char) :=
  match letters with
  | '-' :: rest => readUnsigned true rest
  | _ => readUnsigned false letters

/-- A piece of a string: a letter, or the number in a `\u` escape. -/
inductive Piece where
  | letter (value : Char)
  | unit (value : Nat)
deriving DecidableEq, Repr

def utf8Size (letters : List Char) : Nat :=
  letters.foldl (fun size letter => size + letter.utf8Size) 0

/-- Where a `\u` escape has too few letters: unfinished if fewer than four bytes are left, whatever
they are. -/
def hexFault (letters : List Char) : Fault :=
  if utf8Size letters < 4 then .unfinished else .malformed

def simpleEscape : Char → Option Char
  | '"' => some '"'
  | '\\' => some '\\'
  | '/' => some '/'
  | 'b' => some '\x08'
  | 'f' => some '\x0c'
  | 'n' => some '\n'
  | 'r' => some '\r'
  | 't' => some '\t'
  | _ => none

/-- The pieces up to the closing quote, and what follows it; with a fault, the pieces before. -/
def readPieces : List Char → List Piece × Except Fault (List Char)
  | [] => ([], .error .unfinished)
  | '"' :: rest => ([], .ok rest)
  | '\\' :: 'u' :: a :: b :: c :: d :: rest =>
      match Text.Hexadecimal.value? [a, b, c, d] with
      | none => ([], .error .malformed)
      | some value =>
          let (pieces, ending) := readPieces rest
          (.unit value :: pieces, ending)
  | '\\' :: 'u' :: rest => ([], .error (hexFault rest))
  | '\\' :: letter :: rest =>
      match simpleEscape letter with
      | none => ([], .error .malformed)
      | some value =>
          let (pieces, ending) := readPieces rest
          (.letter value :: pieces, ending)
  | letter :: rest =>
      if letter = '\\' then ([], .error .unfinished)
      else if letter.toNat < 0x20 then ([], .error .malformed)
      else
        let (pieces, ending) := readPieces rest
        (.letter letter :: pieces, ending)

def isHighSurrogate (value : Nat) : Bool := 0xd800 ≤ value && value ≤ 0xdbff

def isLowSurrogate (value : Nat) : Bool := 0xdc00 ≤ value && value ≤ 0xdfff

/-- Joins surrogate pairs. The last argument is what stands after the pieces: a closing quote or a
fault, which wins over a pair that it cuts in two. -/
def joinPieces (ending : Option Fault) : List Piece → Except Fault (List Char)
  | [] => match ending with
      | none => .ok []
      | some fault => .error fault
  | .letter value :: rest => do
      return value :: (← joinPieces ending rest)
  | .unit high :: .unit low :: rest =>
      if isHighSurrogate high then
        if isLowSurrogate low then do
          let code := 0x10000 + (high - 0xd800) * 0x400 + (low - 0xdc00)
          return Char.ofNat code :: (← joinPieces ending rest)
        else .error .malformed
      else if isLowSurrogate high then .error .malformed
      else do
        return Char.ofNat high :: (← joinPieces ending (.unit low :: rest))
  | .unit value :: rest =>
      if isHighSurrogate value then
        match rest, ending with
        | [], some fault => .error fault
        | _, _ => .error .malformed
      else if isLowSurrogate value then .error .malformed
      else do
        return Char.ofNat value :: (← joinPieces ending rest)

/-- A string without its opening quote. -/
inductive StringRead where
  | whole (letters : Letters) (rest : List Char)
  | cut (read : Fault) (skipped : Fault)

def readString (letters : List Char) : StringRead :=
  match readPieces letters with
  | (pieces, .ok rest) => .whole ((joinPieces none pieces).map String.ofList) rest
  | (pieces, .error fault) =>
      match joinPieces (some fault) pieces with
      | .error first => .cut first fault
      | .ok _ => .cut fault fault

mutual

/-- A value and what follows it, nothing if a fault was met. -/
def read : Nat → List Char → Tree × Option (List Char)
  | 0, _ => (.broken .unfinished .unfinished, none)
  | fuel + 1, letters =>
      match skipBlanks letters with
      | [] => (.broken .unfinished .unfinished, none)
      | 'n' :: rest => word ['u', 'l', 'l'] .null rest
      | 't' :: rest => word ['r', 'u', 'e'] (.flag true) rest
      | 'f' :: rest => word ['a', 'l', 's', 'e'] (.flag false) rest
      | '"' :: rest =>
          match readString rest with
          | .whole letters after => (.text letters, some after)
          | .cut first second => (.broken first second, none)
      | '[' :: rest =>
          let (elements, after) := readElements fuel true rest
          (.array elements, after)
      | '\x7b' :: rest =>
          let (members, after) := readMembers fuel true rest
          (.object members, after)
      | letter :: rest =>
          if letter = '-' || isDigit letter then
            match readNumber (letter :: rest) with
            | .ok (numeral, after) => (.number numeral, some after)
            -- A number that is passed over is malformed even if only the text ends too early.
            | .error fault => (.broken fault .malformed, none)
          else (.broken .malformed .malformed, none)
where
  word (letters : List Char) (value : Tree) (rest : List Char) : Tree × Option (List Char) :=
    match readWord letters rest with
    | .ok after => (value, some after)
    | .error fault => (.broken fault fault, none)

/-- Elements up to the closing bracket; `first` says that none has been read. -/
def readElements : Nat → Bool → List Char → Elements × Option (List Char)
  | 0, _, _ => (.cut .unfinished, none)
  | fuel + 1, first, letters =>
      match skipBlanks letters, first with
      | ']' :: rest, _ => (.done, some rest)
      | ',' :: rest, false =>
          match skipBlanks rest with
          | ']' :: _ => (.cut .malformed, none)
          | _ => readElement fuel rest
      | [], _ => (.cut .unfinished, none)
      | others, true => readElement fuel others
      | _, false => (.cut .malformed, none)

def readElement : Nat → List Char → Elements × Option (List Char)
  | 0, _ => (.cut .unfinished, none)
  | fuel + 1, letters =>
      match read fuel letters with
      | (head, none) => (.more head .done, none)
      | (head, some rest) =>
          let (tail, after) := readElements fuel false rest
          (.more head tail, after)

def readMembers : Nat → Bool → List Char → Members × Option (List Char)
  | 0, _, _ => (.cut .unfinished, none)
  | fuel + 1, first, letters =>
      match skipBlanks letters, first with
      | '\x7d' :: rest, _ => (.done, some rest)
      | ',' :: rest, false => readMember fuel (skipBlanks rest)
      | [], _ => (.cut .unfinished, none)
      | others, true => readMember fuel others
      | _, false => (.cut .malformed, none)

def readMember : Nat → List Char → Members × Option (List Char)
  | 0, _ => (.cut .unfinished, none)
  | fuel + 1, letters =>
      match letters with
      | '"' :: rest =>
          match readString rest with
          | .cut first second => (.cutKey first second, none)
          | .whole key afterKey =>
              match skipBlanks afterKey with
              | ':' :: afterColon =>
                  match read fuel afterColon with
                  | (value, none) => (.more key value .done, none)
                  | (value, some rest) =>
                      let (tail, after) := readMembers fuel false rest
                      (.more key value tail, after)
              | others => (.more key (.broken (faultAt others) (faultAt others)) .done, none)
      | others => (.cut (faultAt others), none)

end

/-- Enough for every text: no letter is looked at more than three times. -/
def fuelFor (letters : List Char) : Nat := 4 * letters.length + 4

/-- The first value of a text and what follows it. -/
def ofLetters (letters : List Char) : Tree × Option (List Char) := read (fuelFor letters) letters

/-- Only blanks may follow the value of a document. -/
def checkEnd (letters : List Char) : Except Fault Unit :=
  if (skipBlanks letters).isEmpty then .ok () else .error .malformed

mutual

/-- Passes over a value: strings and numbers need not denote anything. -/
def skip : Tree → Except Fault Unit
  | .null | .flag _ | .number _ | .text _ => .ok ()
  | .array elements => skipElements elements
  | .object members => skipMembers members
  | .broken _ fault => .error fault

def skipElements : Elements → Except Fault Unit
  | .done => .ok ()
  | .cut fault => .error fault
  | .more head tail => do
      skip head
      skipElements tail

def skipMembers : Members → Except Fault Unit
  | .done => .ok ()
  | .cut fault => .error fault
  | .cutKey _ fault => .error fault
  | .more _ value tail => do
      skip value
      skipMembers tail

end

/-- Arrays and objects may be nested this deep. -/
def greatestDepth : Nat := 127

mutual

/-- The value of a tree in which nothing is at fault; `depth` is how many levels may still open. -/
def value (depth : Nat) : Tree → Except Fault Value
  | .null => .ok .null
  | .flag value => .ok (.flag value)
  | .number numeral =>
      match numeral.value? with
      | some known => .ok (.number known)
      | none => .error .malformed
  | .text letters => letters.map .text
  | .array elements =>
      match depth with
      | 0 => .error .malformed
      | depth + 1 => do return .array (← valueElements depth elements)
  | .object members =>
      match depth with
      | 0 => .error .malformed
      | depth + 1 => do return .ofEntries (← valueMembers depth members)
  | .broken fault _ => .error fault

def valueElements (depth : Nat) : Elements → Except Fault (List Value)
  | .done => .ok []
  | .cut fault => .error fault
  | .more head tail => do
      let first ← value depth head
      return first :: (← valueElements depth tail)

def valueMembers (depth : Nat) : Members → Except Fault (List (String × Value))
  | .done => .ok []
  | .cut fault => .error fault
  | .cutKey fault _ => .error fault
  | .more key tree tail => do
      let key ← key
      let first ← value depth tree
      return (key, first) :: (← valueMembers depth tail)

end

end Tree

/-- The value of a whole text. -/
def parse (text : String) : Except Fault Value := do
  let (tree, rest) := Tree.ofLetters text.toList
  let value ← tree.value Tree.greatestDepth
  match rest with
  | none => .error .malformed
  | some rest => do
      Tree.checkEnd rest
      return value

end CollectionTypes.Json
