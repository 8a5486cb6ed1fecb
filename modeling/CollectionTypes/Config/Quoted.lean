import CollectionTypes.Text.Digits

/-!
The four forms of quoted text in a configuration file: with escapes between double quotes, as it is
between single quotes, and each of them over several lines between tripled quotes. Line ends are
line feeds here.
-/

namespace CollectionTypes.Config

structure QuoteForm where
  quote : Char
  escapes : Bool
  multiline : Bool
deriving DecidableEq, Repr

/-- Letters that may stand for themselves: no control but the tab. -/
def isPlain (letter : Char) : Bool :=
  letter = '\t' || (0x20 ≤ letter.toNat && letter.toNat ≠ 0x7f)

def isSpace (letter : Char) : Bool := letter = ' ' || letter = '\t'

def isSpaceOrLineEnd (letter : Char) : Bool := isSpace letter || letter = '\n'

/-- The letter with a code point in hexadecimal; surrogates are no letters. -/
def letterOfHex (digits : List Char) : Option Char := do
  let code ← Text.Hexadecimal.value? digits
  if code.isValidChar then some (Char.ofNat code) else none

def simpleEscape : Char → Option Char
  | 'b' => some '\x08'
  | 't' => some '\t'
  | 'n' => some '\n'
  | 'f' => some '\x0c'
  | 'r' => some '\r'
  | '"' => some '"'
  | '\\' => some '\\'
  | _ => none

/-- A backslash at the end of a line joins it to the next text. -/
def joinsLines (form : QuoteForm) (afterBackslash : List Char) : Bool :=
  form.multiline && (afterBackslash.dropWhile isSpace).head? == some '\n'

/-- Quotes at the end of a text of several lines: up to two before the closing three belong to the
text. -/
def closing (quote : Char) (letters : List Char) : Option (List Char × List Char) :=
  let run := (letters.takeWhile (· = quote)).length
  if run < 3 then none
  else
    let extra := min (run - 3) 2
    some (List.replicate extra quote, letters.drop (extra + 3))

def prepend (letter : Char) : List Char × List Char → List Char × List Char
  | (value, suffix) => (letter :: value, suffix)

/-- Reads up to the closing quotes and gives back what follows them; `joining` says that a line was
joined to whatever comes after the blanks. -/
def readQuoted (form : QuoteForm) (joining : Bool) : List Char → Option (List Char × List Char)
  | [] => none
  | '\\' :: rest =>
      if !form.escapes then (readQuoted form false rest).map (prepend '\\')
      else if joinsLines form rest then readQuoted form true rest
      else
        match rest with
        | 'u' :: a :: b :: c :: d :: rest => do
            let letter ← letterOfHex [a, b, c, d]
            (readQuoted form false rest).map (prepend letter)
        | 'U' :: a :: b :: c :: d :: e :: f :: g :: h :: rest => do
            let letter ← letterOfHex [a, b, c, d, e, f, g, h]
            (readQuoted form false rest).map (prepend letter)
        | escaped :: rest => do
            let letter ← simpleEscape escaped
            (readQuoted form false rest).map (prepend letter)
        | [] => none
  | letter :: rest =>
      if joining && isSpaceOrLineEnd letter then readQuoted form true rest
      else if letter = form.quote then
        if form.multiline then
          match closing form.quote (letter :: rest) with
          | some ending => some ending
          | none => (readQuoted form false rest).map (prepend letter)
        else some ([], rest)
      else if isPlain letter || (form.multiline && letter = '\n') then
        (readQuoted form false rest).map (prepend letter)
      else none

/-- A line end right after the opening quotes does not count. -/
def dropLineEnd : List Char → List Char
  | '\n' :: rest => rest
  | letters => letters

/-- A quoted text at the front, whether it may have several lines, and what follows. -/
def readText (letters : List Char) : Option (List Char × Bool × List Char) :=
  match letters with
  | '"' :: '"' :: '"' :: rest =>
      (readQuoted ⟨'"', true, true⟩ false (dropLineEnd rest)).map fun (value, suffix) =>
        (value, true, suffix)
  | '\'' :: '\'' :: '\'' :: rest =>
      (readQuoted ⟨'\'', false, true⟩ false (dropLineEnd rest)).map fun (value, suffix) =>
        (value, true, suffix)
  | '"' :: rest =>
      (readQuoted ⟨'"', true, false⟩ false rest).map fun (value, suffix) => (value, false, suffix)
  | '\'' :: rest =>
      (readQuoted ⟨'\'', false, false⟩ false rest).map fun (value, suffix) => (value, false, suffix)
  | _ => none

/-! What follows a text is shorter than what it was read from. -/

theorem closing_length {quote : Char} {letters value suffix : List Char}
    (closed : closing quote letters = some (value, suffix)) : suffix.length < letters.length := by
  have run : (letters.takeWhile (· = quote)).length ≤ letters.length :=
    (List.takeWhile_sublist _).length_le
  simp only [closing] at closed
  split at closed
  · contradiction
  · simp only [Option.some.injEq, Prod.mk.injEq] at closed
    obtain ⟨_, rfl⟩ := closed
    simp only [List.length_drop]
    omega

theorem prepend_eq {letter : Char} {read : List Char × List Char} {value suffix : List Char} :
    prepend letter read = (value, suffix) ↔ letter :: read.1 = value ∧ read.2 = suffix := by
  simp [prepend]

theorem readQuoted_length {form : QuoteForm} {joining : Bool} {letters value suffix : List Char}
    (found : readQuoted form joining letters = some (value, suffix)) :
    suffix.length < letters.length := by
  fun_induction readQuoted form joining letters generalizing value
  all_goals
    try simp only [Option.bind_eq_bind, Option.map_eq_some_iff, Option.bind_eq_some_iff,
      prepend_eq, reduceCtorEq, Prod.exists] at found
  all_goals first
    | simp only [List.length_cons]; grind
    | exact closing_length (by rw [← found]; assumption)

theorem dropLineEnd_length (letters : List Char) :
    (dropLineEnd letters).length ≤ letters.length := by
  unfold dropLineEnd
  split <;> simp

theorem readText_length {letters value suffix : List Char} {multiline : Bool}
    (found : readText letters = some (value, multiline, suffix)) :
    suffix.length < letters.length := by
  unfold readText at found
  split at found
  all_goals
    simp only [Option.map_eq_some_iff, Prod.exists, Prod.mk.injEq, reduceCtorEq] at found
  all_goals
    obtain ⟨_, _, found, _, _, rfl⟩ := found
    have := readQuoted_length found
    have := dropLineEnd_length
    grind

end CollectionTypes.Config
