import CollectionTypes.Proofs.Naming.Word
import CollectionTypes.Proofs.Text.Pieces
import CollectionTypes.Text.Quoted

/-!
The words of a program text: runs of letters, digits, underscores and dots outside of string
literals, so that a name and what is selected on it are one word. A literal stands in quotes, in
which a backslash escapes, or in backquotes, in which nothing does. Comments are not known to the
reader, and no text that it is given here holds any.
-/

namespace CollectionTypes.Text

open Naming

def isDottedLetter (letter : Char) : Bool := isWordLetter letter || letter = '.'

/-- Where a reader stands: outside of literals, with the letters of its word so far, or inside. -/
inductive Scan where
  | outside (word : List Char)
  | quoted
  | escaped
  | raw
deriving DecidableEq

namespace Scan

def ended : Scan → List String
  | .outside (first :: rest) => [String.ofList (first :: rest)]
  | _ => []

def step : Scan → Char → List String × Scan
  | .outside word, letter =>
      if isDottedLetter letter then ([], .outside (word ++ [letter]))
      else (ended (.outside word),
        if letter = '"' then .quoted else if letter = '\x60' then .raw else .outside [])
  | .quoted, letter =>
      ([], if letter = '"' then .outside [] else if letter = '\\' then .escaped else .quoted)
  | .escaped, _ => ([], .quoted)
  | .raw, letter => ([], if letter = '\x60' then .outside [] else .raw)

def words (scan : Scan) : List Char → List String
  | [] => scan.ended
  | letter :: rest => (scan.step letter).1 ++ words (scan.step letter).2 rest

def after (scan : Scan) : List Char → Scan
  | [] => scan
  | letter :: rest => after (scan.step letter).2 rest

theorem words_of_name (word : List Char) {name : List Char}
    (dotted : ∀ letter ∈ name, isDottedLetter letter = true) (rest : List Char) :
    (outside word).words (name ++ rest) = (outside (word ++ name)).words rest := by
  induction name generalizing word with
  | nil => simp
  | cons first name induction =>
      have head : isDottedLetter first = true := dotted first (List.mem_cons_self ..)
      have tail := induction (word ++ [first]) fun letter member =>
        dotted letter (List.mem_cons_of_mem _ member)
      simp only [List.cons_append, words, step, head, if_true, List.nil_append, tail,
        List.append_assoc]

/-- A mark ends a word. -/
theorem words_of_mark (word : List Char) {mark : Char} (stop : isDottedLetter mark = false)
    (rest : List Char) :
    (outside word).words (mark :: rest) =
      (outside word).ended ++ (outside []).words (mark :: rest) := by
  simp only [words, step, stop]
  rfl

/-- Letters that leave the reader outside of words and literals hold only words of their own. -/
theorem words_of_closed {scan : Scan} {letters : List Char}
    (closed : scan.after letters = outside []) (rest : List Char) :
    scan.words (letters ++ rest) = scan.words letters ++ (outside []).words rest := by
  induction letters generalizing scan with
  | nil =>
      rw [after] at closed
      subst closed
      rfl
  | cons first letters induction =>
      rw [after] at closed
      rw [List.cons_append, words, words, induction closed, List.append_assoc]

theorem after_encoded_letter (letter : Char) (rest : List Char) :
    quoted.words (Quoted.encodeLetter letter ++ rest) = quoted.words rest := by
  unfold Quoted.encodeLetter
  split
  case h_6 quote backslash _ _ _ =>
    have noQuote : letter ≠ '"' := fun same => quote same
    have noBackslash : letter ≠ '\\' := fun same => backslash same
    simp [words, step, noQuote, noBackslash]
  all_goals simp [words, step]

/-- What stands in a literal is no word. -/
theorem words_of_literal (value rest : List Char) :
    (outside []).words (Quoted.literalLetters value ++ rest) = (outside []).words rest := by
  have quote : isDottedLetter '"' = false := by decide
  have body : quoted.words (Quoted.encode value ++ '"' :: rest) = (outside []).words rest := by
    induction value with
    | nil => simp [Quoted.encode, words, step]
    | cons letter value induction =>
        have encoded : Quoted.encode (letter :: value) =
            Quoted.encodeLetter letter ++ Quoted.encode value := rfl
        rw [encoded, List.append_assoc, after_encoded_letter, induction]
  simp only [Quoted.literalLetters, List.cons_append, List.append_assoc, List.nil_append, words,
    step, quote]
  exact body

/-- What stands between backquotes is no word. -/
theorem words_of_raw {body : List Char} (whole : '\x60' ∉ body) (rest : List Char) :
    (outside []).words ('\x60' :: (body ++ '\x60' :: rest)) = (outside []).words rest := by
  have backquote : isDottedLetter '\x60' = false := by decide
  have inside : raw.words (body ++ '\x60' :: rest) = (outside []).words rest := by
    induction body with
    | nil => simp [words, step]
    | cons letter body induction =>
        have other : letter ≠ '\x60' := fun same => whole (same ▸ List.mem_cons_self ..)
        have tail := induction fun member => whole (List.mem_cons_of_mem _ member)
        rw [List.cons_append, words, step, if_neg other, tail]
        rfl
  rw [words, step, backquote]
  exact inside

end Scan

def words (text : String) : List String := (Scan.outside []).words text.toList

/-- What a word selects on a variable: the part after its first dot. -/
def selectedOn (receivers : List String) (word : String) : List String :=
  match pieces (· = '.') word.toList with
  | first :: member :: _ =>
      if receivers.contains (String.ofList first) then [String.ofList member] else []
  | _ => []

def selected (receivers : List String) (text : String) : List String :=
  (words text).flatMap (selectedOn receivers)

theorem selected_on_word {receivers : List String} {word : String} (isWord : IsWord word) :
    selectedOn receivers word = [] := by
  have noDot : ∀ letter ∈ word.toList, decide (letter = '.') = false := by
    intro letter member
    simp only [decide_eq_false_iff_not]
    rintro rfl
    exact absurd (isWord.letters '.' member) (by decide)
  rw [selectedOn, pieces_of_no_separator noDot]

def foreign (stock : List String) (text : String) : List String :=
  (words text).filter fun word => !stock.contains word

/-- A text whose words are of a fixed stock, or of the names that were put into it. -/
def Within (stock names : List String) (text : String) : Prop :=
  ∀ word ∈ words text, word ∈ stock ∨ word ∈ names

def isStock (stock : List String) (letters : List Char) : Bool :=
  (Scan.outside []).after letters == .outside [] &&
    ((Scan.outside []).words letters).all stock.contains

def opensWithMark : List Char → Bool
  | [] => false
  | first :: _ => !isDottedLetter first

section Within

variable {stock names : List String} {letters : List Char} {rest : String}

theorem within_empty : Within stock names "" := by
  have none : words "" = [] := by decide
  intro word member
  rw [none] at member
  contradiction

theorem within_stock (fits : isStock stock letters = true) (tail : Within stock names rest) :
    Within stock names (String.ofList letters ++ rest) := by
  obtain ⟨closed, known⟩ := Bool.and_eq_true_iff.mp fits
  intro word member
  rw [words, String.toList_append, String.toList_ofList,
    Scan.words_of_closed (eq_of_beq closed)] at member
  rcases List.mem_append.mp member with own | later
  · have found := List.all_eq_true.mp known word own
    exact Or.inl (List.contains_iff_mem.mp found)
  · exact tail word later

theorem within_last (fits : isStock stock letters = true) :
    Within stock names (String.ofList letters) := by
  have whole : Within stock names (String.ofList letters ++ "") := within_stock fits within_empty
  rwa [String.append_empty] at whole

theorem within_literal (value : String) (tail : Within stock names rest) :
    Within stock names (Quoted.literal value ++ rest) := by
  intro word member
  rw [words, String.toList_append, Quoted.literal, String.toList_ofList,
    Scan.words_of_literal] at member
  exact tail word member

/-- A name is a word of its own if the text ends after it or goes on with a mark. -/
theorem within_name {name : String} (dotted : ∀ letter ∈ name.toList, isDottedLetter letter = true)
    (known : name ∈ stock ∨ name ∈ names)
    (stop : rest = "" ∨ opensWithMark rest.toList = true) (tail : Within stock names rest) :
    Within stock names (name ++ rest) := by
  have own : ∀ word ∈ (Scan.outside name.toList).ended, word ∈ stock ∨ word ∈ names := by
    intro word member
    cases spelled : name.toList with
    | nil => simp [spelled, Scan.ended] at member
    | cons first letters =>
        rw [spelled, Scan.ended, ← spelled, String.ofList_toList] at member
        rwa [List.mem_singleton.mp member]
  intro word member
  rw [words, String.toList_append, Scan.words_of_name [] dotted, List.nil_append] at member
  rcases stop with rfl | mark
  · exact own word member
  · cases follows : rest.toList with
    | nil => simp [follows, opensWithMark] at mark
    | cons first later =>
        have ends : isDottedLetter first = false := by simpa [follows, opensWithMark] using mark
        rw [follows, Scan.words_of_mark _ ends] at member
        rcases List.mem_append.mp member with before | after
        · exact own word before
        · exact tail word (by rwa [words, follows])

theorem opens_stock (mark : opensWithMark letters = true) :
    opensWithMark (String.ofList letters ++ rest).toList = true := by
  cases letters with
  | nil => contradiction
  | cons first letters =>
      rw [String.toList_append, String.toList_ofList]
      exact mark

theorem foreign_of_within {bound : List String} {text : String}
    (within : Within stock (bound ++ names) text) :
    ∀ name ∈ foreign (stock ++ bound) text, name ∈ names := by
  intro name member
  obtain ⟨read, isForeign⟩ := List.mem_filter.mp member
  have absent : name ∉ stock ∧ name ∉ bound := by simpa using isForeign
  rcases within name read with known | given
  · exact absurd known absent.1
  · exact (List.mem_append.mp given).resolve_left absent.2

end Within

end CollectionTypes.Text
