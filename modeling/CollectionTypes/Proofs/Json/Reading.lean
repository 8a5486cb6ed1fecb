import CollectionTypes.Proofs.Json.Decoder
import CollectionTypes.Proofs.Json.Written
import Mathlib.Data.List.DropRight

/-!
Reading in front of other text. What is read to its end is read in the same way whatever follows it
and however much fuel is left; only a number that ends its text has to be closed by what follows.
Texts with a fault are no part of this: what they are read as depends on where they stop.
-/

namespace CollectionTypes.Json.Tree

open Text.Decimal (isDigit)

/-! Blanks, words and strings. -/

def isGap (letter : Char) : Bool := letter ∈ [' ', '\t', '\n', '\r']

theorem skip_blanks_eq (letters : List Char) : skipBlanks letters = letters.dropWhile isGap := by
  fun_induction skipBlanks letters with
  | case1 rest induction | case2 rest induction | case3 rest induction | case4 rest induction =>
      rw [induction]
      rfl
  | case5 letters space tab line return_ =>
      cases letters with
      | nil => rfl
      | cons first rest =>
          refine (List.dropWhile_cons_of_neg ?_).symm
          simp only [isGap, List.mem_cons, List.not_mem_nil, or_false, decide_eq_true_eq, not_or]
          exact ⟨fun same => space rest (by rw [same]), fun same => tab rest (by rw [same]),
            fun same => line rest (by rw [same]), fun same => return_ rest (by rw [same])⟩

theorem skip_blanks_append {letters : List Char} {first : Char} {rest : List Char}
    (shown : skipBlanks letters = first :: rest) (more : List Char) :
    skipBlanks (letters ++ more) = first :: (rest ++ more) := by
  rw [skip_blanks_eq] at shown ⊢
  rw [List.dropWhile_append, shown]
  rfl

theorem skip_blanks_of_blank {blank : List Char} (empty : skipBlanks blank = [])
    (letters : List Char) : skipBlanks (blank ++ letters) = skipBlanks letters := by
  rw [skip_blanks_eq] at *
  rw [skip_blanks_eq, List.dropWhile_append, empty]
  rfl

theorem skip_blanks_idem (letters : List Char) :
    skipBlanks (skipBlanks letters) = skipBlanks letters := by
  simp only [skip_blanks_eq]
  exact List.dropWhile_idempotent ..

theorem read_word_append {word letters rest : List Char}
    (taken : readWord word letters = .ok rest) (more : List Char) :
    readWord word (letters ++ more) = .ok (rest ++ more) := by
  induction word generalizing letters with
  | nil =>
      cases taken
      rfl
  | cons wanted word induction =>
      cases letters with
      | nil => cases taken
      | cons letter letters =>
          rw [List.cons_append, readWord]
          rw [readWord] at taken
          split at taken
          · rename_i same
            rw [if_pos same]
            exact induction taken
          · cases taken

theorem read_pieces_simple {letter value : Char} (known : simpleEscape letter = some value)
    (rest : List Char) : readPieces ('\\' :: letter :: rest) =
      (.letter value :: (readPieces rest).1, (readPieces rest).2) := by
  have plain : letter ≠ 'u' := by
    rintro rfl
    cases known
  rw [readPieces]
  · rw [known]
  · exact fun _ _ _ _ _ same => absurd same plain
  · exact plain

theorem read_pieces_append {letters rest : List Char} {pieces : List Piece}
    (taken : readPieces letters = (pieces, .ok rest)) (more : List Char) :
    readPieces (letters ++ more) = (pieces, .ok (rest ++ more)) := by
  fun_induction readPieces letters generalizing pieces with
  | case1 | case3 | case5 | case6 | case8 | case9 => simp at taken
  | case2 following =>
      cases taken
      simp [readPieces]
  | case4 a b c d following value known found ending inner induction =>
      obtain ⟨rfl, rfl⟩ := Prod.mk.inj taken
      simp [readPieces, known, induction inner]
  | case7 letter following _ plain value known found ending inner induction =>
      obtain ⟨rfl, rfl⟩ := Prod.mk.inj taken
      rw [List.cons_append, List.cons_append, read_pieces_simple known, induction inner]
  | case10 letter following _ _ _ _ backslash shown found ending inner induction =>
      obtain ⟨rfl, rfl⟩ := Prod.mk.inj taken
      simp [readPieces, backslash, shown, induction inner]

theorem read_string_append {letters rest : List Char} {text : Letters}
    (taken : readString letters = .whole text rest) (more : List Char) :
    readString (letters ++ more) = .whole text (rest ++ more) := by
  rw [readString] at taken
  split at taken
  · rename_i pieces following read
    cases taken
    simp only [readString, read_pieces_append read more]
  · split at taken <;> cases taken

/-! Numbers. -/

section Numbers

variable {letters digits rest more : List Char}

theorem read_digits_append (taken : readDigits letters = .ok (digits, rest))
    (closes : rest = [] → ClosesNumber more) :
    readDigits (letters ++ more) = .ok (digits, rest ++ more) := by
  obtain ⟨rfl, some, own, stop⟩ := read_digits_eq_ok.mp taken
  refine read_digits_eq_ok.mpr ⟨List.append_assoc .., some, own, ?_⟩
  cases rest with
  | nil => exact fun letter first => (closes rfl letter first).1
  | cons letter rest => exact stop

theorem read_whole_append (taken : readWhole letters = .ok (digits, rest))
    (closes : rest = [] → ClosesNumber more) :
    readWhole (letters ++ more) = .ok (digits, rest ++ more) := by
  have plain {letters : List Char} (other : ∀ letter rest, letters ≠ '0' :: letter :: rest) :
      readWhole letters = readDigits letters := by
    rw [readWhole]
    exact other
  rcases letters with _ | ⟨first, _ | ⟨second, following⟩⟩
  · cases taken
  · rw [plain (by simp)] at taken
    have own := read_digits_append taken closes
    obtain ⟨same, some, _⟩ := read_digits_eq_ok.mp taken
    obtain ⟨rfl, rfl⟩ : digits = [first] ∧ rest = [] := by
      cases digits with
      | nil => contradiction
      | cons digit digits =>
          obtain ⟨rfl, none⟩ := List.cons.inj same
          obtain ⟨rfl, rfl⟩ := List.append_eq_nil_iff.mp none.symm
          exact ⟨rfl, rfl⟩
    cases more with
    | nil => exact (plain (by simp)).trans own
    | cons letter more =>
        by_cases zero : first = '0'
        · subst zero
          simp [readWhole, (closes rfl letter rfl).1]
        · rw [plain (by simp [zero])]
          exact own
  · by_cases zero : first = '0'
    · subst zero
      simp only [readWhole] at taken
      split at taken
      · cases taken
      · rename_i other
        cases taken
        simp [readWhole, other]
    · rw [plain (by simp [zero])] at taken
      rw [plain (by simp [zero])]
      exact read_digits_append taken closes

/-- The digits of an exponent behind its sign. -/
theorem signed_append {negative : Bool} {exponent : Bool × List Char}
    (taken : (do
      let (digits, rest) ← readDigits letters
      return ((negative, digits), rest)) = Except.ok (exponent, rest))
    (closes : rest = [] → ClosesNumber more) :
    (do
      let (digits, rest) ← readDigits (letters ++ more)
      return ((negative, digits), rest)) = Except.ok (exponent, rest ++ more) := by
  obtain ⟨⟨digits, after⟩, read, pair⟩ := Decoder.bind_eq_ok.mp taken
  cases pair
  rw [read_digits_append read closes]
  rfl

theorem read_exponent_append {exponent : Bool × List Char}
    (taken : readExponent letters = .ok (exponent, rest))
    (closes : rest = [] → ClosesNumber more) :
    readExponent (letters ++ more) = .ok (exponent, rest ++ more) := by
  cases letters with
  | nil => cases taken
  | cons first following =>
      by_cases minus : first = '-'
      · subst minus
        rw [readExponent] at taken
        exact signed_append taken closes
      by_cases plus : first = '+'
      · subst plus
        rw [readExponent] at taken
        exact signed_append taken closes
      · have unsigned (others : List Char) : readExponent (first :: others) = (do
            let (digits, rest) ← readDigits (first :: others)
            return ((false, digits), rest)) := by
          rw [readExponent] <;> simp [minus, plus]
        rw [unsigned] at taken
        rw [List.cons_append, unsigned]
        exact signed_append taken closes

theorem read_fraction_append {fraction : Option (List Char)}
    (taken : readFraction letters = .ok (fraction, rest))
    (closes : rest = [] → ClosesNumber more) :
    readFraction (letters ++ more) = .ok (fraction, rest ++ more) := by
  rw [readFraction.eq_def] at taken
  split at taken
  · obtain ⟨⟨digits, after⟩, read, pair⟩ := Decoder.bind_eq_ok.mp taken
    cases pair
    rw [List.cons_append, readFraction, read_digits_append read closes]
    rfl
  · rename_i unmarked
    cases taken
    refine read_fraction_plain ?_
    cases letters with
    | nil => exact fun letter first => (closes rfl letter first).2.1
    | cons first following =>
        rintro letter ⟨⟩ rfl
        exact unmarked following rfl

theorem read_power_append {exponent : Option (Bool × List Char)}
    (taken : readPower letters = .ok (exponent, rest))
    (closes : rest = [] → ClosesNumber more) :
    readPower (letters ++ more) = .ok (exponent, rest ++ more) := by
  rw [readPower.eq_def] at taken
  split at taken
  case h_1 | h_2 =>
    obtain ⟨⟨parts, after⟩, read, pair⟩ := Decoder.bind_eq_ok.mp taken
    cases pair
    rw [List.cons_append, readPower, read_exponent_append read closes]
    rfl
  case h_3 small great =>
    cases taken
    refine read_power_plain ?_
    cases letters with
    | nil => exact fun letter first => (closes rfl letter first).2.2
    | cons first following =>
        rintro letter ⟨⟩
        exact ⟨fun same => small following (by rw [same]), fun same => great following (by rw [same])⟩

/-- Each part ends where the next begins, so what follows the number decides on the last one that
is there. -/
theorem read_unsigned_append {negative : Bool} {number : NumberText}
    (taken : readUnsigned negative letters = .ok (number, rest))
    (closes : rest = [] → ClosesNumber more) :
    readUnsigned negative (letters ++ more) = .ok (number, rest ++ more) := by
  obtain ⟨⟨whole, afterWhole⟩, first, taken⟩ := Decoder.bind_eq_ok.mp taken
  obtain ⟨⟨fraction, afterFraction⟩, second, taken⟩ := Decoder.bind_eq_ok.mp taken
  obtain ⟨⟨exponent, afterExponent⟩, third, pair⟩ := Decoder.bind_eq_ok.mp taken
  cases pair
  have beforeExponent : afterFraction = [] → ClosesNumber more := by
    rintro rfl
    cases third
    exact closes rfl
  have beforeFraction : afterWhole = [] → ClosesNumber more := by
    rintro rfl
    cases second
    exact beforeExponent rfl
  rw [readUnsigned, read_whole_append first beforeFraction]
  simp only [bind, Except.bind, read_fraction_append second beforeExponent,
    read_power_append third closes]
  rfl

theorem read_number_append {number : NumberText}
    (taken : readNumber letters = .ok (number, rest)) (closes : rest = [] → ClosesNumber more) :
    readNumber (letters ++ more) = .ok (number, rest ++ more) := by
  rw [readNumber.eq_def] at taken
  split at taken
  · exact read_unsigned_append taken closes
  · rename_i unsigned
    have plain : readNumber (letters ++ more) = readUnsigned false (letters ++ more) := by
      cases letters with
      | nil => cases taken
      | cons first following =>
          rw [readNumber]
          rintro others same
          exact unsigned following (by rw [(List.cons.inj same).1])
    rw [plain]
    exact read_unsigned_append taken closes

end Numbers

/-! Values, elements and members. Of each reader the next two results say first how it can come to
an end, and then that it comes to the same end in front of more text. -/

section Steps

variable {fuel larger : Nat} {first : Bool} {letters rest more : List Char}
variable {trees : Elements} {members : Members}

/-- How elements that are read to their end begin: with the closing bracket, or with an element, that
stands behind a comma unless it is the first. -/
theorem read_elements_eq_some : readElements (fuel + 1) first letters = (trees, some rest) ↔
    skipBlanks letters = ']' :: rest ∧ trees = .done ∨
      ∃ opening following, skipBlanks letters = opening :: following ∧ opening ≠ ']' ∧
        (first = true ∧ readElement fuel (opening :: following) = (trees, some rest) ∨
          first = false ∧ opening = ',' ∧ (skipBlanks following).head? ≠ some ']' ∧
            readElement fuel following = (trees, some rest)) := by
  cases shown : skipBlanks letters with
  | nil => cases first <;> simp [readElements, shown]
  | cons opening following =>
      by_cases closed : opening = ']'
      · subst closed
        simp [readElements, shown, and_comm, eq_comm]
      cases first with
      | true => simp [readElements, shown, closed]
      | false =>
          by_cases comma : opening = ','
          · subst comma
            cases behind : skipBlanks following with
            | nil => simp [readElements, shown, behind]
            | cons next others =>
                by_cases closing : next = ']'
                · subst closing
                  simp [readElements, shown, behind]
                · simp [readElements, shown, behind, closing]
          · simp [readElements, shown, closed, comma]

theorem read_element_eq_some : readElement (fuel + 1) letters = (trees, some rest) ↔
    ∃ head between tail, read fuel letters = (head, some between) ∧
      readElements fuel false between = (tail, some rest) ∧ trees = .more head tail := by
  rcases found : read fuel letters with ⟨head, _ | between⟩
  · simp [readElement, found]
  · rcases behind : readElements fuel false between with ⟨tail, after⟩
    constructor
    · intro taken
      rw [readElement, found] at taken
      simp only [behind, Prod.mk.injEq] at taken
      exact ⟨head, between, tail, rfl, by rw [behind, taken.2], taken.1.symm⟩
    · rintro ⟨_, _, tail, same, following, rfl⟩
      cases same
      rw [readElement, found]
      simp only [following]

theorem read_members_eq_some : readMembers (fuel + 1) first letters = (members, some rest) ↔
    skipBlanks letters = '\x7d' :: rest ∧ members = .done ∨
      ∃ opening following, skipBlanks letters = opening :: following ∧ opening ≠ '\x7d' ∧
        (first = true ∧ readMember fuel (opening :: following) = (members, some rest) ∨
          first = false ∧ opening = ',' ∧
            readMember fuel (skipBlanks following) = (members, some rest)) := by
  cases shown : skipBlanks letters with
  | nil => cases first <;> simp [readMembers, shown]
  | cons opening following =>
      by_cases closed : opening = '\x7d'
      · subst closed
        simp [readMembers, shown, and_comm, eq_comm]
      cases first with
      | true => simp [readMembers, shown, closed]
      | false =>
          by_cases comma : opening = ','
          · subst comma
            simp [readMembers, shown]
          · simp [readMembers, shown, closed, comma]

theorem read_member_eq_some : readMember (fuel + 1) letters = (members, some rest) ↔
    ∃ quoted key afterKey afterColon value between tail,
      letters = '"' :: quoted ∧ readString quoted = .whole key afterKey ∧
        skipBlanks afterKey = ':' :: afterColon ∧ read fuel afterColon = (value, some between) ∧
          readMembers fuel false between = (tail, some rest) ∧
            members = .more key value tail := by
  constructor
  · intro taken
    rw [readMember.eq_def] at taken
    dsimp only at taken
    split at taken
    · rename_i quoted
      split at taken
      · cases taken
      · rename_i key afterKey string
        split at taken
        · rename_i afterColon colon
          split at taken
          · cases taken
          · rename_i value between found
            rcases behind : readMembers fuel false between with ⟨tail, after⟩
            simp only [behind, Prod.mk.injEq] at taken
            exact ⟨quoted, key, afterKey, afterColon, value, between, tail, rfl, string, colon,
              found, by rw [behind, taken.2], taken.1.symm⟩
        · cases taken
    · cases taken
  · rintro ⟨quoted, key, afterKey, afterColon, value, between, tail, rfl, string, colon, found,
      behind, rfl⟩
    simp only [readMember, string, colon, found, behind]

/-- A number is told from other values by its first letter. -/
theorem read_of_number {opening : Char} {following : List Char} {numeral : NumberText}
    (starts : (opening == '-' || isDigit opening) = true)
    (shown : skipBlanks letters = opening :: following)
    (number : readNumber (opening :: following) = .ok (numeral, rest)) :
    read (fuel + 1) letters = (.number numeral, some rest) := by
  have other : opening ∉ ['n', 't', 'f', '"', '[', '\x7b'] := by
    intro member
    have letters : ['n', 't', 'f', '"', '[', '\x7b'].all
      (fun letter => !(letter == '-' || isDigit letter)) = true := by decide
    simpa [starts] using List.all_eq_true.mp letters opening member
  simp only [List.mem_cons, not_or] at other
  simp only [Bool.or_eq_true, beq_iff_eq] at starts
  rw [read, shown]
  simp [other, starts, number]

/-! What is read to its end is not blank. -/

theorem value_opens {tree : Tree} (taken : read fuel letters = (tree, some rest)) :
    skipBlanks letters ≠ [] := by
  intro blank
  cases fuel with
  | zero => cases taken
  | succ fuel =>
      rw [read, blank] at taken
      cases taken

theorem element_opens (taken : readElement fuel letters = (trees, some rest)) :
    skipBlanks letters ≠ [] := by
  cases fuel with
  | zero => cases taken
  | succ fuel =>
      obtain ⟨_, _, _, value, _⟩ := read_element_eq_some.mp taken
      exact value_opens value

theorem elements_open (taken : readElements fuel first letters = (trees, some rest)) :
    letters ≠ [] := by
  rintro rfl
  cases fuel with
  | zero => cases taken
  | succ fuel => simpa [skipBlanks] using read_elements_eq_some.mp taken

theorem member_opens (taken : readMember fuel letters = (members, some rest)) : letters ≠ [] := by
  rintro rfl
  cases fuel with
  | zero => cases taken
  | succ fuel => simpa using read_member_eq_some.mp taken

theorem members_open (taken : readMembers fuel first letters = (members, some rest)) :
    letters ≠ [] := by
  rintro rfl
  cases fuel with
  | zero => cases taken
  | succ fuel => simpa [skipBlanks] using read_members_eq_some.mp taken

/-- With this much fuel, what is read to its end is read in the same way in front of whatever
follows, and with more fuel. -/
structure Extends (fuel : Nat) : Prop where
  value : ∀ {larger letters tree rest more}, read fuel letters = (tree, some rest) →
    fuel ≤ larger → (rest = [] → ClosesNumber more) →
      read larger (letters ++ more) = (tree, some (rest ++ more))
  elements : ∀ {larger first letters trees rest},
    readElements fuel first letters = (trees, some rest) → ∀ more, fuel ≤ larger →
      readElements larger first (letters ++ more) = (trees, some (rest ++ more))
  element : ∀ {larger letters trees rest}, readElement fuel letters = (trees, some rest) →
    ∀ more, fuel ≤ larger → readElement larger (letters ++ more) = (trees, some (rest ++ more))
  members : ∀ {larger first letters members rest},
    readMembers fuel first letters = (members, some rest) → ∀ more, fuel ≤ larger →
      readMembers larger first (letters ++ more) = (members, some (rest ++ more))
  member : ∀ {larger letters members rest}, readMember fuel letters = (members, some rest) →
    ∀ more, fuel ≤ larger → readMember larger (letters ++ more) = (members, some (rest ++ more))

theorem word_append {word : List Char} {value tree : Tree}
    (taken : read.word word value letters = (tree, some rest)) (more : List Char) :
    read.word word value (letters ++ more) = (tree, some (rest ++ more)) := by
  rw [read.word] at taken ⊢
  split at taken
  · rename_i after read
    cases taken
    rw [read_word_append read]
  · cases taken

theorem value_extends (shorter : Extends fuel) {tree : Tree}
    (taken : read (fuel + 1) letters = (tree, some rest)) (enough : fuel + 1 ≤ larger)
    (closes : rest = [] → ClosesNumber more) :
    read larger (letters ++ more) = (tree, some (rest ++ more)) := by
  obtain ⟨larger, rfl⟩ := Nat.exists_eq_add_one_of_ne_zero (Nat.ne_zero_of_lt enough)
  have enough := Nat.le_of_succ_le_succ enough
  rw [read] at taken
  cases shown : skipBlanks letters with
  | nil => simp [shown] at taken
  | cons opening following =>
      have extended := skip_blanks_append shown more
      rw [shown] at taken
      split at taken
      case h_1 same => cases same
      case h_2 same | h_3 same | h_4 same =>
        cases same
        rw [read, extended]
        exact word_append taken more
      case h_5 same =>
        cases same
        split at taken
        · rename_i string
          cases taken
          rw [read, extended]
          simp only [read_string_append string more]
        · cases taken
      case h_6 same =>
        cases same
        rcases found : readElements fuel true following with ⟨trees, after⟩
        rw [found] at taken
        cases taken
        rw [read, extended]
        simp only [shorter.elements found more enough]
      case h_7 same =>
        cases same
        rcases found : readMembers fuel true following with ⟨members, after⟩
        rw [found] at taken
        cases taken
        rw [read, extended]
        simp only [shorter.members found more enough]
      case h_8 same =>
        cases same
        split at taken
        · rename_i starts
          split at taken
          · rename_i number
            cases taken
            exact read_of_number (by simpa using starts) extended (read_number_append number closes)
          · cases taken
        · cases taken

theorem elements_extend (shorter : Extends fuel)
    (taken : readElements (fuel + 1) first letters = (trees, some rest)) (more : List Char)
    (enough : fuel + 1 ≤ larger) :
    readElements larger first (letters ++ more) = (trees, some (rest ++ more)) := by
  obtain ⟨larger, rfl⟩ := Nat.exists_eq_add_one_of_ne_zero (Nat.ne_zero_of_lt enough)
  have enough := Nat.le_of_succ_le_succ enough
  refine read_elements_eq_some.mpr ?_
  obtain ⟨closed, rfl⟩ | ⟨opening, following, shown, other, ⟨rfl, element⟩ |
    ⟨rfl, comma, last, element⟩⟩ := read_elements_eq_some.mp taken
  · exact .inl ⟨skip_blanks_append closed more, rfl⟩
  · exact .inr ⟨opening, following ++ more, skip_blanks_append shown more, other,
      .inl ⟨rfl, shorter.element element more enough⟩⟩
  · refine .inr ⟨opening, following ++ more, skip_blanks_append shown more, other,
      .inr ⟨rfl, comma, ?_, shorter.element element more enough⟩⟩
    cases behind : skipBlanks following with
    | nil => exact absurd behind (element_opens element)
    | cons next others =>
        rw [skip_blanks_append behind]
        rw [behind] at last
        exact last

theorem element_extends (shorter : Extends fuel)
    (taken : readElement (fuel + 1) letters = (trees, some rest)) (more : List Char)
    (enough : fuel + 1 ≤ larger) :
    readElement larger (letters ++ more) = (trees, some (rest ++ more)) := by
  obtain ⟨larger, rfl⟩ := Nat.exists_eq_add_one_of_ne_zero (Nat.ne_zero_of_lt enough)
  have enough := Nat.le_of_succ_le_succ enough
  obtain ⟨head, between, tail, value, others, rfl⟩ := read_element_eq_some.mp taken
  exact read_element_eq_some.mpr ⟨head, between ++ more, tail,
    shorter.value value enough (fun none => absurd none (elements_open others)),
    shorter.elements others more enough, rfl⟩

theorem members_extend (shorter : Extends fuel)
    (taken : readMembers (fuel + 1) first letters = (members, some rest)) (more : List Char)
    (enough : fuel + 1 ≤ larger) :
    readMembers larger first (letters ++ more) = (members, some (rest ++ more)) := by
  obtain ⟨larger, rfl⟩ := Nat.exists_eq_add_one_of_ne_zero (Nat.ne_zero_of_lt enough)
  have enough := Nat.le_of_succ_le_succ enough
  refine read_members_eq_some.mpr ?_
  obtain ⟨closed, rfl⟩ | ⟨opening, following, shown, other, ⟨rfl, member⟩ |
    ⟨rfl, comma, member⟩⟩ := read_members_eq_some.mp taken
  · exact .inl ⟨skip_blanks_append closed more, rfl⟩
  · exact .inr ⟨opening, following ++ more, skip_blanks_append shown more, other,
      .inl ⟨rfl, shorter.member member more enough⟩⟩
  · refine .inr ⟨opening, following ++ more, skip_blanks_append shown more, other,
      .inr ⟨rfl, comma, ?_⟩⟩
    cases behind : skipBlanks following with
    | nil => exact absurd behind (member_opens member)
    | cons next others =>
        rw [skip_blanks_append behind]
        rw [behind] at member
        exact shorter.member member more enough

theorem member_extends (shorter : Extends fuel)
    (taken : readMember (fuel + 1) letters = (members, some rest)) (more : List Char)
    (enough : fuel + 1 ≤ larger) :
    readMember larger (letters ++ more) = (members, some (rest ++ more)) := by
  obtain ⟨larger, rfl⟩ := Nat.exists_eq_add_one_of_ne_zero (Nat.ne_zero_of_lt enough)
  have enough := Nat.le_of_succ_le_succ enough
  obtain ⟨quoted, key, afterKey, afterColon, value, between, tail, rfl, string, colon, found,
    behind, rfl⟩ := read_member_eq_some.mp taken
  exact read_member_eq_some.mpr ⟨quoted ++ more, key, afterKey ++ more, afterColon ++ more, value,
    between ++ more, tail, rfl, read_string_append string more, skip_blanks_append colon more,
    shorter.value found enough (fun none => absurd none (members_open behind)),
    shorter.members behind more enough, rfl⟩

theorem extends_of_fuel (fuel : Nat) : Extends fuel := by
  induction fuel with
  | zero =>
      constructor
      all_goals
        intros
        simp [read, readElements, readElement, readMembers, readMember] at *
  | succ fuel shorter =>
      exact ⟨value_extends shorter, elements_extend shorter, element_extends shorter,
        members_extend shorter, member_extends shorter⟩

end Steps

/-- Blanks in front of a value are not looked at. -/
theorem read_congr {letters letters' : List Char} (same : skipBlanks letters = skipBlanks letters')
    (fuel : Nat) : read fuel letters = read fuel letters' := by
  cases fuel with
  | zero => rfl
  | succ fuel => rw [read, read, same]

end CollectionTypes.Json.Tree
