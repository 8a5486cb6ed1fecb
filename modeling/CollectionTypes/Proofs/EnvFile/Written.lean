import CollectionTypes.EnvFile.Basic
import CollectionTypes.Proofs.Naming.Word
import CollectionTypes.Proofs.Text.Pieces

/-!
Entries that are written with a key and a value, one to a line, are read back as they are, whatever
the environment: each line is a logical line of its own, and no value substitutes anything. Values
stand in weak quotes, whatever they hold, or bare, if they are made of harmless letters. Files with
other entries than written ones are no part of this.
-/

namespace CollectionTypes.EnvFile

def isKey (key : List Char) : Bool :=
  match key with
  | [] => false
  | first :: _ => isKeyStart first && key.all isKeyPart

def entryLetters (entry : String × String) : List Char :=
  entry.1.toList ++ '=' :: quoteLetters entry.2.toList

def entriesText (entries : List (String × String)) : String :=
  String.join (entries.map fun entry => String.ofList (entryLetters entry) ++ "\n")

def lineLetters (spell : String → List Char) (entry : String × String) : List Char :=
  entry.1.toList ++ '=' :: spell entry.2

def linesText (spell : String → List Char) (entries : List (String × String)) : String :=
  String.join (entries.map fun entry => String.ofList (lineLetters spell entry) ++ "\n")

/-- Letters behind an equals sign that stand for a value: they hold no line feed, the line is over
where they end, and they are read as the value whatever the names in the file stand for. -/
structure Spells (written value : List Char) : Prop where
  onLine : '\n' ∉ written
  begins : ∃ first rest, written = first :: rest ∧ Text.isBlank first = false ∧ first ≠ '#'
  ends : ∃ before last, written = before ++ [last] ∧ Text.isBlank last = false
  complete : ∀ position, Scan.complete.run position (written ++ ['\n']) = .at .complete
  reads : ∀ lookup, readValue lookup false .plain written = some value

structure Legible (spell : String → List Char) (entry : String × String) : Prop where
  key : isKey entry.1.toList = true
  value : Spells (spell entry.2) entry.2.toList

/-! Keys. -/

theorem key_letter_ascii {letter : Char} (part : isKeyPart letter = true) :
    letter.toNat < 128 := by
  simp only [isKeyPart, Bool.or_eq_true, decide_eq_true_eq] at part
  rcases part with (alphanumeric | rfl) | rfl
  · exact Naming.ascii_of_alphanumeric alphanumeric
  · decide
  · decide

/-- Nothing begins at a letter of a key: no blank, no quote, no comment and no line. -/
theorem key_letter_scan {letter : Char} (part : isKeyPart letter = true) :
    Scan.complete.step letter = some .complete ∧ Text.isBlank letter = false ∧
      letter ≠ '#' ∧ letter ≠ '\n' := by
  have ascii : ∀ code < 128, isKeyPart (Char.ofNat code) = true →
      Scan.complete.step (Char.ofNat code) = some .complete ∧
        Text.isBlank (Char.ofNat code) = false ∧ Char.ofNat code ≠ '#' ∧
        Char.ofNat code ≠ '\n' := by decide
  rw [← Char.ofNat_toNat letter] at part ⊢
  exact ascii _ (key_letter_ascii (by rwa [Char.ofNat_toNat] at part)) part

theorem key_parts {key : List Char} (legal : isKey key = true) :
    ∀ letter ∈ key, isKeyPart letter = true := by
  cases key with
  | nil => contradiction
  | cons first rest => exact List.all_eq_true.mp (Bool.and_eq_true_iff.mp legal).2

/-! Physical lines: a value has no line feed of its own. -/

theorem cut_first_line {line : List Char} (clean : '\n' ∉ line) (rest : List Char) :
    FileContent.cutLines (· = '\n') (line ++ '\n' :: rest) =
      (line ++ ['\n']) :: FileContent.cutLines (· = '\n') rest := by
  induction line with
  | nil => simp [FileContent.cutLines]
  | cons first line induction =>
      simp only [List.mem_cons, not_or] at clean
      have other : first ≠ '\n' := fun same => clean.1 same.symm
      simp [FileContent.cutLines, other, induction clean.2]

section Lines

variable {spell : String → List Char} {entry : String × String}

theorem line_on_line (legible : Legible spell entry) : '\n' ∉ lineLetters spell entry := by
  have inKey : '\n' ∉ entry.1.toList := fun inside =>
    (key_letter_scan (key_parts legible.key '\n' inside)).2.2.2 rfl
  simp [lineLetters, inKey, legible.value.onLine]

/-! Logical lines: the scan of a written line is complete at its end. -/

theorem run_of_key {key : List Char} (parts : ∀ letter ∈ key, isKeyPart letter = true)
    {rest : List Char} (done : ∀ position, Scan.complete.run position rest = .at .complete)
    (position : Nat) : Scan.complete.run position (key ++ rest) = .at .complete := by
  induction key generalizing position with
  | nil => exact done position
  | cons first key induction =>
      have step := (key_letter_scan (parts first (List.mem_cons_self ..))).1
      rw [List.cons_append, Scan.run, step]
      exact induction (fun letter member => parts letter (List.mem_cons_of_mem _ member)) _

theorem run_of_line (legible : Legible spell entry) :
    Scan.complete.run 0 (lineLetters spell entry ++ ['\n']) = .at .complete := by
  have line : lineLetters spell entry ++ ['\n'] =
      entry.1.toList ++ ('=' :: (spell entry.2 ++ ['\n'])) := by
    simp [lineLetters]
  rw [line]
  apply run_of_key (key_parts legible.key)
  intro position
  exact legible.value.complete (position + 1)

theorem line_opens (legible : Legible spell entry) :
    ∃ first rest, lineLetters spell entry = first :: rest ∧ isKeyPart first = true := by
  have legal := legible.key
  cases key : entry.1.toList with
  | nil => simp [key, isKey] at legal
  | cons first rest =>
      exact ⟨first, _, by rw [lineLetters, key]; rfl, key_parts legal first (by simp [key])⟩

theorem line_ends (legible : Legible spell entry) :
    ∃ before last, lineLetters spell entry = before ++ [last] ∧ Text.isBlank last = false := by
  obtain ⟨before, last, ends, shown⟩ := legible.value.ends
  exact ⟨entry.1.toList ++ '=' :: before, last, by simp [lineLetters, ends], shown⟩

theorem no_comment {letters : List Char} {first : Char} (part : isKeyPart first = true) :
    startsComment (first :: letters) = false := by
  obtain ⟨_, shown, noMark, _⟩ := key_letter_scan part
  simp [startsComment, Text.dropBlanks, shown, noMark]

theorem drop_line_end_of_line (legible : Legible spell entry) :
    dropLineEnd (lineLetters spell entry ++ ['\n']) = lineLetters spell entry := by
  obtain ⟨before, last, ends, shown⟩ := line_ends legible
  have noReturn : last ≠ '\r' := by
    rintro rfl
    exact absurd shown (by decide)
  simp [dropLineEnd, ends, noReturn]

theorem logical_line_of_line (legible : Legible spell entry) (rest : List RawLine) :
    logicalLines .complete [] (some (lineLetters spell entry ++ ['\n']) :: rest) =
      (lineLetters spell entry :: (logicalLines .complete [] rest).1,
        (logicalLines .complete [] rest).2) := by
  obtain ⟨first, letters, opens, part⟩ := line_opens legible
  have plain : startsComment (lineLetters spell entry ++ ['\n']) = false := by
    rw [opens]
    exact no_comment part
  rw [logicalLines]
  simp only [List.nil_append, plain, run_of_line legible, drop_line_end_of_line legible]
  rfl

theorem logical_lines_of_text {entries : List (String × String)}
    (legible : ∀ entry ∈ entries, Legible spell entry) :
    logicalLines .complete [] (FileContent.text (linesText spell entries)).lines =
      (entries.map (lineLetters spell), none) := by
  induction entries with
  | nil => rfl
  | cons entry entries induction =>
      have own := legible entry (List.mem_cons_self ..)
      have tail := induction fun other member => legible other (List.mem_cons_of_mem _ member)
      have letters : (linesText spell (entry :: entries)).toList =
          lineLetters spell entry ++ '\n' :: (linesText spell entries).toList := by
        simp [linesText, String.join_cons]
      rw [FileContent.lines, letters, cut_first_line (line_on_line own), List.map_cons,
        logical_line_of_line own]
      rw [FileContent.lines] at tail
      rw [tail]
      rfl

/-! Entries. -/

theorem read_key_equals_of_line (legible : Legible spell entry) :
    readKeyEquals (lineLetters spell entry) = some (entry.1.toList, spell entry.2) := by
  obtain ⟨taken, left⟩ := Text.run_until (key_parts legible.key) '=' (by decide) (spell entry.2)
  have legal := legible.key
  have key : readKey (lineLetters spell entry) =
      some (entry.1.toList, '=' :: spell entry.2) := by
    cases letters : entry.1.toList with
    | nil => simp [letters, isKey] at legal
    | cons first rest =>
        have start : isKeyStart first = true := by
          rw [letters] at legal
          exact (Bool.and_eq_true_iff.mp legal).1
        rw [letters] at taken left
        rw [lineLetters, letters, List.cons_append, readKey, if_pos start, ← List.cons_append,
          taken, left]
  have equals : Text.dropBlanks ('=' :: spell entry.2) = '=' :: spell entry.2 := by
    have shown : Text.isBlank '=' = false := by decide
    simp [Text.dropBlanks, shown]
  rw [readKeyEquals, key]
  simp only [Option.bind_eq_bind, Option.bind_some, equals, readEquals]
  rfl

theorem read_entry_of_line (lookup : List Char → List Char) (legible : Legible spell entry) :
    readEntry lookup (lineLetters spell entry) = .ok (some entry) := by
  obtain ⟨first, letters, opens, part⟩ := line_opens legible
  have trimmed : Text.dropBlanks (Text.dropEndBlanks (lineLetters spell entry)) =
      lineLetters spell entry := by
    have ending : Text.dropEndBlanks (lineLetters spell entry) = lineLetters spell entry := by
      obtain ⟨before, last, ends, shown⟩ := line_ends legible
      simp [Text.dropEndBlanks, Text.dropEnd, ends, shown]
    rw [ending, opens, Text.dropBlanks,
      List.dropWhile_cons_of_neg (by simp [(key_letter_scan part).2.1])]
  have begins : ((lineLetters spell entry).isEmpty || startsComment (lineLetters spell entry)) =
      false := by
    rw [opens, no_comment part]
    rfl
  obtain ⟨mark, following, behind, shown, noMark⟩ := legible.value.begins
  have value : Text.dropBlanks (spell entry.2) = spell entry.2 := by
    simp [Text.dropBlanks, behind, shown]
  have holds : ((spell entry.2).isEmpty || startsComment (spell entry.2)) = false := by
    rw [startsComment, value, behind]
    simp [noMark]
  rw [readEntry]
  simp only [trimmed, begins, read_key_equals_of_line legible, value, holds,
    legible.value.reads lookup, String.ofList_toList]
  rfl

theorem read_entries_of_lines (environment earlier : Environment)
    {entries : List (String × String)} (legible : ∀ entry ∈ entries, Legible spell entry) :
    readEntries environment earlier (entries.map (lineLetters spell), none) = (entries, none) := by
  induction entries generalizing earlier with
  | nil => rw [List.map_nil, readEntries]
  | cons entry entries induction =>
      have tail := induction (entry :: earlier) fun other member =>
        legible other (List.mem_cons_of_mem _ member)
      rw [List.map_cons, readEntries, read_entry_of_line _ (legible entry (List.mem_cons_self ..))]
      simp only [tail]

/-- Legible entries are all that is read, and no line of them is at fault. -/
theorem entries_of_lines (environment : Environment) {entries : List (String × String)}
    (legible : ∀ entry ∈ entries, Legible spell entry) :
    EnvFile.entries environment (FileContent.text (linesText spell entries)).lines =
      (entries, none) := by
  rw [EnvFile.entries, logical_lines_of_text legible, read_entries_of_lines environment [] legible]

end Lines

/-! Values in quotes: every escape stands for the letter that it was written for. -/

theorem encoded_letter_on_line (letter : Char) : '\n' ∉ encodeLetter letter := by
  unfold encodeLetter
  split
  case h_5 feed =>
    rw [List.mem_singleton]
    exact fun same => feed same.symm
  all_goals decide

theorem quoted_on_line (value : List Char) : '\n' ∉ quoteLetters value := by
  have body : '\n' ∉ value.flatMap encodeLetter := by
    intro inside
    obtain ⟨letter, _, member⟩ := List.mem_flatMap.mp inside
    exact encoded_letter_on_line letter member
  simp [quoteLetters, body]

theorem run_of_encoded_letter (letter : Char) (rest : List Char) (position : Nat) :
    ∃ next, Scan.weak.run position (encodeLetter letter ++ rest) = Scan.weak.run next rest := by
  unfold encodeLetter
  split
  case h_5 backslash quote _ _ =>
    have noQuote : letter ≠ '"' := fun same => quote same
    have noBackslash : letter ≠ '\\' := fun same => backslash same
    exact ⟨position + 1, by simp [Scan.run, Scan.step, noQuote, noBackslash]⟩
  all_goals exact ⟨position + 1 + 1, by simp [Scan.run, Scan.step]⟩

theorem run_of_encoded (value : List Char) (position : Nat) :
    Scan.weak.run position (value.flatMap encodeLetter ++ ['"', '\n']) = .at .complete := by
  induction value generalizing position with
  | nil => rfl
  | cons letter value induction =>
      rw [List.flatMap_cons, List.append_assoc]
      obtain ⟨next, moved⟩ := run_of_encoded_letter letter
        (value.flatMap encodeLetter ++ ['"', '\n']) position
      rw [moved]
      exact induction next

theorem read_encoded_letter (lookup : List Char → List Char) (letter : Char) (rest : List Char) :
    readValue lookup true .plain (encodeLetter letter ++ rest) =
      (readValue lookup true .plain rest).map fun value => letter :: value := by
  unfold encodeLetter
  split
  case h_5 backslash quote dollar _ =>
    have noQuote : letter ≠ '"' := fun same => quote same
    have noBackslash : letter ≠ '\\' := fun same => backslash same
    have noDollar : letter ≠ '$' := fun same => dollar same
    rw [List.singleton_append, readValue]
    simp only [noQuote, noBackslash, noDollar, if_false, if_true]
    cases readValue lookup true .plain rest <;> rfl
  all_goals
    simp only [List.cons_append, List.nil_append, readValue, escapedLetter]
    cases readValue lookup true .plain rest <;> rfl

theorem read_quoted (lookup : List Char → List Char) (value : List Char) :
    readValue lookup false .plain (quoteLetters value) = some value := by
  have body : readValue lookup true .plain (value.flatMap encodeLetter ++ ['"']) = some value := by
    induction value with
    | nil => rfl
    | cons letter value induction =>
        rw [List.flatMap_cons, List.append_assoc, read_encoded_letter, induction]
        rfl
  exact body

theorem quote_spells (value : List Char) : Spells (quoteLetters value) value where
  onLine := quoted_on_line value
  begins := ⟨'"', _, rfl, by decide, by decide⟩
  ends := ⟨'"' :: value.flatMap encodeLetter, '"', rfl, by decide⟩
  complete position := by
    rw [quoteLetters, List.cons_append, List.cons_append, List.append_assoc]
    exact run_of_encoded value (position + 1)
  reads lookup := read_quoted lookup value

/-- Written entries are all that is read, and no line of them is at fault. -/
theorem entries_of_written (environment : Environment) {entries : List (String × String)}
    (legal : ∀ entry ∈ entries, isKey entry.1.toList = true) :
    EnvFile.entries environment (FileContent.text (entriesText entries)).lines =
      (entries, none) := by
  have legible : ∀ entry ∈ entries, Legible (fun value => quoteLetters value.toList) entry :=
    fun entry member => ⟨legal entry member, quote_spells entry.2.toList⟩
  have lines : entriesText entries = linesText (fun value => quoteLetters value.toList) entries :=
    rfl
  rw [lines]
  exact entries_of_lines environment legible

/-! Bare values. -/

def isBareLetter (letter : Char) : Bool :=
  letter.isAlphanum || letter = '-' || letter = '_' || letter = '='

theorem bare_letter_ascii {letter : Char} (bare : isBareLetter letter = true) :
    letter.toNat < 128 := by
  simp only [isBareLetter, Bool.or_eq_true, decide_eq_true_eq] at bare
  rcases bare with ((alphanumeric | rfl) | rfl) | rfl
  · exact Naming.ascii_of_alphanumeric alphanumeric
  · decide
  · decide
  · decide

/-- Nothing begins and nothing ends at a bare letter. -/
theorem bare_letter_stands {letter : Char} (bare : isBareLetter letter = true) :
    Scan.complete.step letter = some .complete ∧ Text.isBlank letter = false ∧
      letter ∉ ['$', '\\', '"', '\'', ' ', '\t', '#', '\n'] := by
  have ascii : ∀ code < 128, isBareLetter (Char.ofNat code) = true →
      Scan.complete.step (Char.ofNat code) = some .complete ∧
        Text.isBlank (Char.ofNat code) = false ∧
        Char.ofNat code ∉ ['$', '\\', '"', '\'', ' ', '\t', '#', '\n'] := by decide
  rw [← Char.ofNat_toNat letter] at bare ⊢
  exact ascii _ (bare_letter_ascii (by rwa [Char.ofNat_toNat] at bare)) bare

theorem run_of_bare {value : List Char} (bare : ∀ letter ∈ value, isBareLetter letter = true)
    (position : Nat) : Scan.complete.run position (value ++ ['\n']) = .at .complete := by
  induction value generalizing position with
  | nil => rfl
  | cons letter value induction =>
      rw [List.cons_append, Scan.run, (bare_letter_stands (bare letter (List.mem_cons_self ..))).1]
      exact induction (fun other member => bare other (List.mem_cons_of_mem _ member)) _

theorem read_bare (lookup : List Char → List Char) {value : List Char}
    (bare : ∀ letter ∈ value, isBareLetter letter = true) :
    readValue lookup false .plain value = some value := by
  induction value with
  | nil => rfl
  | cons letter value induction =>
      have apart := (bare_letter_stands (bare letter (List.mem_cons_self ..))).2.2
      have tail := induction fun other member => bare other (List.mem_cons_of_mem _ member)
      simp only [List.mem_cons, not_or] at apart
      simp [readValue, apart, tail]

theorem bare_spells {value : List Char} (bare : ∀ letter ∈ value, isBareLetter letter = true)
    (filled : value ≠ []) : Spells value value where
  onLine inside := (bare_letter_stands (bare _ inside)).2.2 (by decide)
  begins := by
    obtain ⟨first, rest, rfl⟩ := List.exists_cons_of_ne_nil filled
    obtain ⟨_, shown, apart⟩ := bare_letter_stands (bare first (List.mem_cons_self ..))
    exact ⟨first, rest, rfl, shown, fun mark => apart (by rw [mark]; decide)⟩
  ends := by
    have last := bare _ (List.getLast_mem filled)
    exact ⟨value.dropLast, value.getLast filled, (List.dropLast_append_getLast filled).symm,
      (bare_letter_stands last).2.1⟩
  complete := run_of_bare bare
  reads lookup := read_bare lookup bare

end CollectionTypes.EnvFile
