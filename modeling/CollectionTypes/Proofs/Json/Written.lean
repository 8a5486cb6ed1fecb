import CollectionTypes.Json.Tree
import CollectionTypes.Json.Writer
import CollectionTypes.Proofs.Text.Decimal

/-!
Documents that are written and read again. A value without doubles, of natural numbers below 2^64
and nested no deeper than a reader allows, comes back from its text, with the keys of its objects in
order. Doubles are no part of this, and neither are texts that this writer would not write.
-/

namespace CollectionTypes.Json

open CollectionTypes.Json.Tree
open Text.Decimal (isDigit digits)

/-! Strings: every letter is read as one piece. -/

namespace Writer

/-- How a written letter is read: controls without a short escape are read as numbers. -/
def pieceOf (letter : Char) : Piece :=
  if letter ∈ ['"', '\\', '\x08', '\x0c', '\n', '\r', '\t'] then .letter letter
  else if letter.toNat < 0x20 then .unit letter.toNat
  else .letter letter

theorem hexadecimal_of_control : ∀ code < 0x20, Text.Hexadecimal.value?
    ['0', '0', Text.Hexadecimal.digit (code / 16), Text.Hexadecimal.digit (code % 16)] =
      some code := by
  decide

/-- A letter that needs no escape stands for itself. -/
theorem read_pieces_plain {letter : Char} (quote : letter ≠ '"') (backslash : letter ≠ '\\')
    (shown : ¬letter.toNat < 0x20) (rest : List Char) :
    readPieces (letter :: rest) = (.letter letter :: (readPieces rest).1, (readPieces rest).2) := by
  simp [readPieces, backslash, shown]

theorem read_pieces_escape (letter : Char) (rest : List Char) :
    readPieces (escapeLetter letter ++ rest) =
      (pieceOf letter :: (readPieces rest).1, (readPieces rest).2) := by
  unfold escapeLetter
  split
  case h_8 quote backslash back feed line return_ tab =>
    have common : letter ∉ ['"', '\\', '\x08', '\x0c', '\n', '\r', '\t'] := by
      simp only [List.mem_cons, List.not_mem_nil, or_false, not_or]
      exact ⟨quote, backslash, back, feed, line, return_, tab⟩
    rw [pieceOf, if_neg common]
    split
    · rename_i control
      simp [readPieces, hexadecimal_of_control _ control]
    · rename_i shown
      exact read_pieces_plain (fun same => quote same) (fun same => backslash same) shown rest
  all_goals simp [readPieces, simpleEscape, pieceOf]

theorem read_pieces_of_text (text rest : List Char) :
    readPieces (text.flatMap escapeLetter ++ '"' :: rest) = (text.map pieceOf, .ok rest) := by
  induction text with
  | nil => rfl
  | cons letter text induction =>
      rw [List.flatMap_cons, List.append_assoc, read_pieces_escape, induction, List.map_cons]

/-- A number that is no surrogate stands for its code point, whatever follows. -/
theorem join_unit {value : Nat} (small : value < 0x20) {pieces : List Piece} {letters : List Char}
    (joined : joinPieces none pieces = .ok letters) :
    joinPieces none (.unit value :: pieces) = .ok (Char.ofNat value :: letters) := by
  have high : isHighSurrogate value = false := by simp [isHighSurrogate]; omega
  have low : isLowSurrogate value = false := by simp [isLowSurrogate]; omega
  rcases pieces with _ | ⟨_ | _, pieces⟩ <;> unfold joinPieces <;>
    simp only [high, low, joined] <;> rfl

theorem join_pieces_of_text (text : List Char) :
    joinPieces none (text.map pieceOf) = .ok text := by
  induction text with
  | nil => rfl
  | cons letter text induction =>
      have plain : joinPieces none (.letter letter :: text.map pieceOf) = .ok (letter :: text) := by
        simp only [joinPieces, induction]
        rfl
      rw [List.map_cons, pieceOf]
      split
      · exact plain
      · split
        · rename_i control
          rw [join_unit control induction, Char.ofNat_toNat]
        · exact plain

theorem read_string_of_text (text : String) (rest : List Char) :
    readString (text.toList.flatMap escapeLetter ++ '"' :: rest) = .whole (.ok text) rest := by
  simp [readString, read_pieces_of_text, join_pieces_of_text, Except.map]

end Writer

/-! Numbers: what follows must not go on with one. -/

def ClosesNumber (rest : List Char) : Prop :=
  ∀ letter ∈ rest.head?, isDigit letter = false ∧ letter ≠ '.' ∧ letter ≠ 'e' ∧ letter ≠ 'E'

/-- A run of digits that ends here. -/
theorem read_digits_eq_ok {letters digits rest : List Char} : readDigits letters = .ok (digits, rest) ↔
    letters = digits ++ rest ∧ digits ≠ [] ∧ (∀ letter ∈ digits, isDigit letter = true) ∧
      ∀ letter ∈ rest.head?, isDigit letter = false := by
  constructor
  · intro taken
    simp only [readDigits] at taken
    split at taken
    · cases taken
    · rename_i some
      cases taken
      refine ⟨(List.takeWhile_append_dropWhile ..).symm, by simpa using some,
        fun letter member => List.all_eq_true.mp List.all_takeWhile letter member,
        fun letter first => ?_⟩
      have stop := List.head?_dropWhile_not isDigit letters
      rw [Option.mem_def.mp first] at stop
      simpa using stop
  · rintro ⟨rfl, some, own, stop⟩
    have none : rest.takeWhile isDigit = [] := by
      cases rest with
      | nil => rfl
      | cons letter rest => simp [stop letter rfl]
    have all : rest.dropWhile isDigit = rest := by
      cases rest with
      | nil => rfl
      | cons letter rest => simp [stop letter rfl]
    simp only [readDigits, List.takeWhile_append_of_pos own, List.dropWhile_append_of_pos own, none,
      all, List.append_nil]
    rw [if_neg (by simpa using some)]

theorem read_digits_of_digits (value : Nat) {rest : List Char} (closes : ClosesNumber rest) :
    readDigits (digits value ++ rest) = .ok (digits value, rest) :=
  read_digits_eq_ok.mpr ⟨rfl, Text.Decimal.digits_ne_nil value,
    Text.Decimal.digits_are_digits value, fun letter first => (closes letter first).1⟩

theorem read_whole_of_digits (value : Nat) {rest : List Char} (closes : ClosesNumber rest) :
    readWhole (digits value ++ rest) = .ok (digits value, rest) := by
  have plain := read_digits_of_digits value closes
  rcases Nat.eq_zero_or_pos value with rfl | positive
  · have zero : digits 0 = ['0'] := by rw [digits]; rfl
    rw [zero] at plain ⊢
    cases rest with
    | nil => exact plain
    | cons letter rest => simp [readWhole, (closes letter rfl).1]
  · obtain ⟨first, others, lead, shown⟩ := Text.Decimal.digits_lead positive
    rw [lead, List.cons_append] at plain ⊢
    rw [readWhole.eq_def]
    split
    · rename_i same
      exact absurd (List.cons.inj same).1 shown
    · exact plain

/-- Where a part may be left out, only its mark says that it is there. -/
theorem read_fraction_plain {letters : List Char} (plain : ∀ letter ∈ letters.head?, letter ≠ '.') :
    readFraction letters = .ok (none, letters) := by
  rw [readFraction]
  rintro after rfl
  exact plain '.' rfl rfl

theorem read_power_plain {letters : List Char}
    (plain : ∀ letter ∈ letters.head?, letter ≠ 'e' ∧ letter ≠ 'E') :
    readPower letters = .ok (none, letters) := by
  rw [readPower] <;> rintro after rfl
  · exact (plain 'e' rfl).1 rfl
  · exact (plain 'E' rfl).2 rfl

theorem read_number_of_digits (value : Nat) {rest : List Char} (closes : ClosesNumber rest) :
    readNumber (digits value ++ rest) = .ok (⟨false, digits value, none, none⟩, rest) := by
  have whole := read_whole_of_digits value closes
  cases lead : digits value with
  | nil => exact absurd lead (Text.Decimal.digits_ne_nil value)
  | cons first others =>
      have shown : isDigit first = true :=
        Text.Decimal.digits_are_digits value first (by simp [lead])
      have unsigned : first ≠ '-' := by
        rintro rfl
        contradiction
      have plain : readNumber (first :: (others ++ rest)) =
          readUnsigned false (first :: (others ++ rest)) := by
        rw [readNumber]
        simp [unsigned]
      have noFraction := read_fraction_plain fun letter first => (closes letter first).2.1
      have noPower := read_power_plain fun letter first => (closes letter first).2.2
      rw [lead, List.cons_append] at whole
      rw [List.cons_append, plain, readUnsigned, whole]
      simp only [bind, Except.bind, noFraction, noPower]
      rfl

theorem value_of_digits {value : Nat} (small : value < NumberText.digitBound) :
    NumberText.value? ⟨false, digits value, none, none⟩ = some (.integer value) := by
  have known : NumberText.integer? ⟨false, digits value, none, none⟩ = some (value : Int) := by
    simp [NumberText.integer?, Text.Decimal.value_from_digits, small]
  rw [NumberText.value?, known]

theorem number_letters_of_natural (value : Nat) :
    Writer.numberLetters (.integer value) = digits value := by
  have positive : ¬(value : Int) < 0 := by omega
  simp [Writer.numberLetters, Number.write, integerText, positive, Text.Decimal.write]

/-! Values. -/

/-- The value that a text of this value stands for: the keys of every object are in order. -/
def Value.canonical : Value → Value
  | .array elements => .array (elements.map canonical)
  | .object entries => .ofEntries (entries.map fun entry => (entry.1, canonical entry.2))
  | value => value
termination_by value => sizeOf value
decreasing_by
  · rename_i member
    have smaller := List.sizeOf_lt_of_mem member
    simp only [array.sizeOf_spec]
    omega
  · rename_i member
    have smaller := List.sizeOf_lt_of_mem member
    obtain ⟨key, value⟩ := entry
    simp only [object.sizeOf_spec, Prod.mk.sizeOf_spec] at smaller ⊢
    omega

def Value.Writable : Nat → Value → Prop
  | _, .null => True
  | _, .flag _ => True
  | _, .text _ => True
  | _, .number written => ∃ value : Nat, value < NumberText.digitBound ∧ written = .integer value
  | 0, .array _ => False
  | 0, .object _ => False
  | depth + 1, .array elements => ∀ element ∈ elements, element.Writable depth
  | depth + 1, .object entries => ∀ entry ∈ entries, entry.2.Writable depth

theorem Value.writable_number {depth : Nat} {written : Number}
    (writable : (Value.number written).Writable depth) :
    ∃ value : Nat, value < NumberText.digitBound ∧ written = .integer value := by
  cases depth <;> exact writable

namespace Tree

/-- Letters with which a value can begin: no blank, and nothing that goes on with a list or ends
one. -/
def Opens (letters : List Char) : Prop :=
  ∃ first following, letters = first :: following ∧
    first ∉ [' ', '\t', '\n', '\r', ',', ']', '\x7d']

theorem opens_of_digit {first : Char} (digit : isDigit first = true) (following : List Char) :
    Opens (first :: following) := by
  refine ⟨first, following, rfl, fun member => ?_⟩
  have other : [' ', '\t', '\n', '\r', ',', ']', '\x7d'].all (!isDigit ·) = true := by decide
  simpa [digit] using List.all_eq_true.mp other first member

theorem digits_open (value : Nat) (rest : List Char) :
    ∃ first following, digits value ++ rest = first :: following ∧ isDigit first = true := by
  have own := Text.Decimal.digits_are_digits value
  cases lead : digits value with
  | nil => exact absurd lead (Text.Decimal.digits_ne_nil value)
  | cons first others => exact ⟨first, others ++ rest, rfl, own first (by simp [lead])⟩

theorem letters_open {depth : Nat} {value : Value} (writable : value.Writable depth)
    (rest : List Char) : Opens (Writer.letters value ++ rest) := by
  cases value with
  | null => exact ⟨_, _, rfl, by decide⟩
  | flag value => cases value <;> exact ⟨_, _, rfl, by decide⟩
  | text value => exact ⟨_, _, rfl, by decide⟩
  | array elements => exact ⟨_, _, rfl, by decide⟩
  | object entries => exact ⟨_, _, rfl, by decide⟩
  | number written =>
      obtain ⟨value, _, rfl⟩ := Value.writable_number writable
      obtain ⟨first, following, same, digit⟩ := digits_open value rest
      rw [Writer.letters, number_letters_of_natural, same]
      exact opens_of_digit digit following

theorem skip_blanks_of_opens {letters : List Char} (opens : Opens letters) :
    skipBlanks letters = letters := by
  obtain ⟨first, following, rfl, shown⟩ := opens
  simp only [List.mem_cons, not_or] at shown
  simp [skipBlanks, shown]

theorem read_of_digits (value fuel : Nat) {rest : List Char} (closes : ClosesNumber rest) :
    read (fuel + 1) (digits value ++ rest) =
      (.number ⟨false, digits value, none, none⟩, some rest) := by
  have numeral := read_number_of_digits value closes
  obtain ⟨first, following, same, digit⟩ := digits_open value rest
  rw [same] at numeral ⊢
  have other : first ∉ ['n', 't', 'f', '"', '[', '\x7b'] := by
    intro member
    have letters : ['n', 't', 'f', '"', '[', '\x7b'].all (!isDigit ·) = true := by decide
    simpa [digit] using List.all_eq_true.mp letters first member
  simp only [List.mem_cons, not_or] at other
  rw [read, skip_blanks_of_opens (opens_of_digit digit following)]
  simp [other, digit, numeral]

/-- A first element stands alone, a later one behind a comma. -/
theorem read_elements_opens {fuel : Nat} {begins : Bool} {letters : List Char}
    (opens : Opens letters) :
    readElements (fuel + 1) begins ((if begins then [] else [',']) ++ letters) =
      readElement fuel letters := by
  have kept := skip_blanks_of_opens opens
  obtain ⟨first, following, rfl, shown⟩ := opens
  simp only [List.mem_cons, not_or] at shown
  cases begins with
  | true => simp [readElements, kept, shown]
  | false => simp [readElements, skipBlanks, kept, shown]

theorem read_members_opens {fuel : Nat} {begins : Bool} {letters : List Char} :
    readMembers (fuel + 1) begins ((if begins then [] else [',']) ++ '"' :: letters) =
      readMember fuel ('"' :: letters) := by
  cases begins <;> simp [readMembers, skipBlanks]

structure ReadsAs (depth : Nat) (written : Value) (tree : Tree) : Prop where
  reads : ∀ fuel rest, 2 * (Writer.letters written).length ≤ fuel → ClosesNumber rest →
    read fuel (Writer.letters written ++ rest) = (tree, some rest)
  denotes : ∀ levels ≥ depth, tree.value levels = .ok written.canonical

structure ElementsReadAs (depth : Nat) (written : List Value) (trees : Elements) : Prop where
  reads : ∀ fuel begins rest, 2 * (Writer.elementLetters begins written).length ≤ fuel →
    readElements fuel begins (Writer.elementLetters begins written ++ rest) = (trees, some rest)
  denotes : ∀ levels ≥ depth, valueElements levels trees = .ok (written.map (·.canonical))

structure MembersReadAs (depth : Nat) (written : List (String × Value)) (members : Members) :
    Prop where
  reads : ∀ fuel begins rest, 2 * (Writer.entryLetters begins written).length ≤ fuel →
    readMembers fuel begins (Writer.entryLetters begins written ++ rest) = (members, some rest)
  denotes : ∀ levels ≥ depth, valueMembers levels members =
    .ok (written.map fun entry => (entry.1, entry.2.canonical))

section Lists

variable {depth : Nat}

theorem elements_close (written : List Value) (rest : List Char) :
    ClosesNumber (Writer.elementLetters false written ++ rest) := by
  cases written <;> simp [ClosesNumber, Writer.elementLetters] <;> decide

theorem entries_close (written : List (String × Value)) (rest : List Char) :
    ClosesNumber (Writer.entryLetters false written ++ rest) := by
  cases written <;> simp [ClosesNumber, Writer.entryLetters] <;> decide

theorem letters_length_pos {value : Value} (writable : value.Writable depth) :
    0 < (Writer.letters value).length := by
  obtain ⟨first, following, same, _⟩ := letters_open writable []
  rw [List.append_nil] at same
  simp [same]

theorem elements_length_pos (begins : Bool) (written : List Value) :
    0 < (Writer.elementLetters begins written).length := by
  cases written with
  | nil => simp [Writer.elementLetters]
  | cons element written =>
      have last := elements_length_pos false written
      simp only [Writer.elementLetters, List.length_append]
      omega

theorem entries_length_pos (begins : Bool) (written : List (String × Value)) :
    0 < (Writer.entryLetters begins written).length := by
  rcases written with _ | ⟨⟨key, value⟩, written⟩ <;>
    simp only [Writer.entryLetters, List.length_append, List.length_cons] <;> omega

theorem elements_read_as {written : List Value}
    (writable : ∀ element ∈ written, element.Writable depth)
    (each : ∀ element : Value, element.Writable depth → ∃ tree, ReadsAs depth element tree) :
    ∃ trees, ElementsReadAs depth written trees := by
  induction written with
  | nil =>
      refine ⟨.done, fun fuel begins rest enough => ?_, fun levels _ => rfl⟩
      obtain ⟨fuel, rfl⟩ := Nat.exists_eq_add_one_of_ne_zero (n := fuel) (by
        simp only [Writer.elementLetters, List.length_singleton] at enough; omega)
      simp [Writer.elementLetters, readElements, skipBlanks]
  | cons element written induction =>
      have own := writable element (List.mem_cons_self ..)
      obtain ⟨tree, head⟩ := each element own
      obtain ⟨trees, tail⟩ := induction fun other member =>
        writable other (List.mem_cons_of_mem _ member)
      refine ⟨.more tree trees, fun fuel begins rest enough => ?_, fun levels deep => ?_⟩
      · have first := letters_length_pos own
        have more := elements_length_pos false written
        rw [Writer.elementLetters, List.length_append, List.length_append] at enough
        obtain ⟨fuel, rfl⟩ : ∃ left, fuel = left + 1 + 1 := ⟨fuel - 2, by omega⟩
        rw [Writer.elementLetters, List.append_assoc, List.append_assoc,
          read_elements_opens (letters_open own _), readElement,
          head.reads fuel _ (by omega) (elements_close written rest)]
        simp only [tail.reads fuel false rest (by omega)]
      · simp only [valueElements, head.denotes levels deep, tail.denotes levels deep]
        rfl

/-- A member is read if its value is, and the members behind it are. -/
theorem read_member_of_reads {fuel : Nat} {value : Value} {written : List (String × Value)}
    {rest : List Char} {tree : Tree} {members : Members} (key : String) (begins : Bool)
    (head : read fuel (Writer.letters value ++ (Writer.entryLetters false written ++ rest)) =
      (tree, some (Writer.entryLetters false written ++ rest)))
    (tail : readMembers fuel false (Writer.entryLetters false written ++ rest) =
      (members, some rest)) :
    readMembers (fuel + 1 + 1) begins
        (Writer.entryLetters begins ((key, value) :: written) ++ rest) =
      (.more (.ok key) tree members, some rest) := by
  have letters : Writer.entryLetters begins ((key, value) :: written) ++ rest =
      (if begins then [] else [',']) ++ '"' :: (key.toList.flatMap Writer.escapeLetter ++
        '"' :: ':' :: (Writer.letters value ++ (Writer.entryLetters false written ++ rest))) := by
    simp [Writer.entryLetters, Writer.textLetters]
  have colon (following : List Char) : skipBlanks (':' :: following) = ':' :: following :=
    skip_blanks_of_opens ⟨_, _, rfl, by decide⟩
  rw [letters, read_members_opens, readMember]
  simp only [Writer.read_string_of_text, colon, head, tail]

theorem members_read_as {written : List (String × Value)}
    (writable : ∀ entry ∈ written, entry.2.Writable depth)
    (each : ∀ value : Value, value.Writable depth → ∃ tree, ReadsAs depth value tree) :
    ∃ members, MembersReadAs depth written members := by
  induction written with
  | nil =>
      refine ⟨.done, fun fuel begins rest enough => ?_, fun levels _ => rfl⟩
      obtain ⟨fuel, rfl⟩ := Nat.exists_eq_add_one_of_ne_zero (n := fuel) (by
        simp only [Writer.entryLetters, List.length_singleton] at enough; omega)
      simp [Writer.entryLetters, readMembers, skipBlanks]
  | cons entry written induction =>
      obtain ⟨key, value⟩ := entry
      have own : value.Writable depth := writable (key, value) (List.mem_cons_self ..)
      obtain ⟨tree, head⟩ := each value own
      obtain ⟨members, tail⟩ := induction fun other member =>
        writable other (List.mem_cons_of_mem _ member)
      refine ⟨.more (.ok key) tree members, fun fuel begins rest enough => ?_,
        fun levels deep => ?_⟩
      · have more := entries_length_pos false written
        simp only [Writer.entryLetters, Writer.textLetters, List.length_append,
          List.length_cons] at enough
        obtain ⟨fuel, rfl⟩ : ∃ left, fuel = left + 1 + 1 := ⟨fuel - 2, by omega⟩
        exact read_member_of_reads key begins
          (head.reads fuel _ (by omega) (entries_close written rest))
          (tail.reads fuel false rest (by omega))
      · simp only [valueMembers, head.denotes levels deep, tail.denotes levels deep]
        rfl

end Lists

theorem reads_as_of_one {depth : Nat} {written : Value} {tree : Tree}
    (filled : 0 < (Writer.letters written).length)
    (reads : ∀ fuel rest, ClosesNumber rest →
      read (fuel + 1) (Writer.letters written ++ rest) = (tree, some rest))
    (denotes : ∀ levels, tree.value levels = .ok written.canonical) :
    ReadsAs depth written tree where
  reads fuel rest enough closes := by
    obtain ⟨fuel, rfl⟩ := Nat.exists_eq_add_one_of_ne_zero (n := fuel) (by omega)
    exact reads fuel rest closes
  denotes levels _ := denotes levels

theorem read_text (fuel : Nat) (text : String) (rest : List Char) :
    read (fuel + 1) (Writer.letters (.text text) ++ rest) = (.text (.ok text), some rest) := by
  simp [Writer.letters, Writer.textLetters, read, skipBlanks, Writer.read_string_of_text]

/-- Values that hold no others, at any depth. -/
theorem leaf_read_as {depth : Nat} {written : Value} (writable : written.Writable depth)
    (noArray : ∀ elements, written ≠ .array elements)
    (noObject : ∀ entries, written ≠ .object entries) :
    ∃ tree, ReadsAs depth written tree := by
  have filled := letters_length_pos writable
  have same : written.canonical = written := by
    cases written <;> simp_all [Value.canonical]
  cases written with
  | array elements => exact absurd rfl (noArray elements)
  | object entries => exact absurd rfl (noObject entries)
  | null =>
      refine ⟨.null, reads_as_of_one filled (fun fuel rest _ => ?_) fun levels => by rw [same]; rfl⟩
      simp [Writer.letters, read, skipBlanks, read.word, readWord]
  | flag flag =>
      refine ⟨.flag flag, reads_as_of_one filled (fun fuel rest _ => ?_) fun levels => by
        rw [same]; rfl⟩
      cases flag <;> simp [Writer.letters, read, skipBlanks, read.word, readWord]
  | text text =>
      exact ⟨.text (.ok text), reads_as_of_one filled (fun fuel rest _ => read_text fuel text rest)
        fun levels => by rw [same]; rfl⟩
  | number number =>
      obtain ⟨value, small, rfl⟩ := Value.writable_number writable
      refine ⟨.number ⟨false, digits value, none, none⟩,
        reads_as_of_one filled (fun fuel rest closes => ?_) fun levels => ?_⟩
      · rw [Writer.letters, number_letters_of_natural, read_of_digits value fuel closes]
      · simp only [Tree.value, value_of_digits small, same]

/-- By induction on the depth that is allowed. -/
theorem value_read_as (depth : Nat) (written : Value) (writable : written.Writable depth) :
    ∃ tree, ReadsAs depth written tree := by
  induction depth generalizing written with
  | zero =>
      cases written with
      | array elements => exact writable.elim
      | object entries => exact writable.elim
      | _ => exact leaf_read_as writable (by simp) (by simp)
  | succ depth induction =>
      cases written with
      | array elements =>
          obtain ⟨trees, inner⟩ := elements_read_as writable induction
          refine ⟨.array trees, fun fuel rest enough closes => ?_, fun levels deep => ?_⟩
          · rw [Writer.letters, List.length_cons] at enough
            obtain ⟨fuel, rfl⟩ := Nat.exists_eq_add_one_of_ne_zero (n := fuel) (by omega)
            rw [Writer.letters, List.cons_append, read]
            simp [skipBlanks, inner.reads fuel true rest (by omega)]
          · obtain ⟨levels, rfl⟩ := Nat.exists_eq_add_one_of_ne_zero (n := levels) (by omega)
            simp only [value, inner.denotes levels (by omega), Value.canonical]
            rfl
      | object entries =>
          obtain ⟨members, inner⟩ := members_read_as writable induction
          refine ⟨.object members, fun fuel rest enough closes => ?_, fun levels deep => ?_⟩
          · rw [Writer.letters, List.length_cons] at enough
            obtain ⟨fuel, rfl⟩ := Nat.exists_eq_add_one_of_ne_zero (n := fuel) (by omega)
            rw [Writer.letters, List.cons_append, read]
            simp [skipBlanks, inner.reads fuel true rest (by omega)]
          · obtain ⟨levels, rfl⟩ := Nat.exists_eq_add_one_of_ne_zero (n := levels) (by omega)
            simp only [value, inner.denotes levels (by omega), Value.canonical]
            rfl
      | _ => exact leaf_read_as writable (by simp) (by simp)

/-! Objects of texts, read as a tree. -/

def textMembers : List (String × String) → Members
  | [] => .done
  | (key, value) :: rest => .more (.ok key) (.text (.ok value)) (textMembers rest)

def textEntries (entries : List (String × String)) : List (String × Value) :=
  entries.map fun entry => (entry.1, .text entry.2)

theorem read_text_members (entries : List (String × String)) {fuel : Nat} (begins : Bool)
    (rest : List Char) (enough : 2 * entries.length < fuel) :
    readMembers fuel begins (Writer.entryLetters begins (textEntries entries) ++ rest) =
      (textMembers entries, some rest) := by
  induction entries generalizing fuel begins with
  | nil =>
      obtain ⟨fuel, rfl⟩ := Nat.exists_eq_add_one_of_ne_zero (n := fuel) (by omega)
      simp [textEntries, textMembers, Writer.entryLetters, readMembers, skipBlanks]
  | cons entry entries induction =>
      rw [List.length_cons] at enough
      obtain ⟨fuel, rfl⟩ : ∃ left, fuel = left + 1 + 1 + 1 := ⟨fuel - 3, by omega⟩
      exact read_member_of_reads entry.1 begins (read_text fuel entry.2 _)
        (induction false (by omega))

theorem entries_length_le (begins : Bool) (written : List (String × Value)) :
    written.length ≤ (Writer.entryLetters begins written).length := by
  induction written generalizing begins with
  | nil => simp
  | cons entry written induction =>
      have tail := induction false
      obtain ⟨key, value⟩ := entry
      simp only [Writer.entryLetters, List.length_append, List.length_cons]
      omega

theorem of_letters_of_texts (entries : List (String × String)) :
    ofLetters (Writer.letters (.object (textEntries entries))) =
      (.object (textMembers entries), some []) := by
  have short := entries_length_le true (textEntries entries)
  have same : (textEntries entries).length = entries.length := by simp [textEntries]
  obtain ⟨fuel, enough, large⟩ : ∃ fuel, 2 * entries.length < fuel ∧
      fuelFor (Writer.letters (.object (textEntries entries))) = fuel + 1 := by
    refine ⟨4 * (Writer.entryLetters true (textEntries entries)).length + 7, by omega, ?_⟩
    rw [fuelFor, Writer.letters, List.length_cons]
    omega
  have members := read_text_members entries true [] enough
  rw [List.append_nil] at members
  rw [ofLetters, large, Writer.letters, read]
  simp [skipBlanks, members]

end Tree

/-- What is written is read back, with the keys in order. -/
theorem parse_write {written : Value} (writable : written.Writable Tree.greatestDepth) :
    parse (Writer.write written) = .ok written.canonical := by
  obtain ⟨tree, read⟩ := Tree.value_read_as Tree.greatestDepth written writable
  have whole := read.reads (Tree.fuelFor (Writer.letters written)) []
    (by rw [Tree.fuelFor]; omega) (by simp [ClosesNumber])
  rw [List.append_nil] at whole
  simp only [parse, Writer.write, String.toList_ofList, Tree.ofLetters, whole,
    read.denotes Tree.greatestDepth (Nat.le_refl _)]
  rfl

end CollectionTypes.Json
