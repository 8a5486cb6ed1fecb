import CollectionTypes.Client.Basic
import CollectionTypes.Proofs.Text.Ends
import Mathlib.Data.List.Infix

/-!
Addresses that are made of hosts. Each opens with one of the two schemes. The blanks around a host
go first, then the slashes at its end, and neither is looked for again: blanks that stood before the
slashes stay, and nothing may be left behind the scheme. The addresses that end neither with a slash
nor with a blank are exactly those of which the same address is made again.
-/

namespace CollectionTypes.Client

open Text

def scheme : List Char := "http://".toList

def stripped (host : List Char) : List Char := dropEnd (· = '/') (trimLetters host)

def withScheme (letters : List Char) : List Char :=
  if hasScheme letters then letters else scheme ++ letters

structure IsAddress (letters : List Char) : Prop extends IsTrimmed letters where
  schemed : hasScheme letters = true
  noSlash : ∀ last ∈ letters.getLast?, last ≠ '/'

/-- Without the blanks around it, a host is something that ends neither with a slash nor with a
blank, and slashes behind it. -/
def Settles (host : List Char) : Prop :=
  ∃ body slashes, trimLetters host = body ++ slashes ∧ (∀ letter ∈ slashes, letter = '/') ∧
    ∃ last ∈ body.getLast?, last ≠ '/' ∧ isBlank last = false

section Addresses

variable {host letters : List Char}

theorem normalize_host_letters (host : String) :
    (normalizeHost host).toList = withScheme (stripped host.toList) := by
  rw [normalizeHost, ← stripped, withScheme]
  split
  · exact String.toList_ofList
  · have opening : "http://" = String.ofList scheme := String.ofList_toList.symm
    rw [opening, ← String.ofList_append, String.toList_ofList]

theorem last_of_stripped (host : List Char) : ∀ last ∈ (stripped host).getLast?, last ≠ '/' :=
  fun last found => of_decide_eq_false (last_of_drop_end _ (trimLetters host) last found)

theorem settles_iff :
    Settles host ↔ ∃ last ∈ (stripped host).getLast?, isBlank last = false := by
  constructor
  · rintro ⟨body, slashes, whole, only, last, found, noSlash, shown⟩
    have gone : ∀ letter ∈ slashes, decide (letter = '/') = true := fun letter member =>
      decide_eq_true (only letter member)
    have kept : ∀ other ∈ body.getLast?, decide (other = '/') = false := by
      intro other same
      obtain rfl := Option.mem_unique found same
      exact decide_eq_false noSlash
    refine ⟨last, ?_, shown⟩
    rwa [stripped, whole, drop_end_append gone, drop_end_of_last kept]
  · rintro ⟨last, found, shown⟩
    obtain ⟨slashes, whole, only⟩ := drop_end_split (fun letter => decide (letter = '/'))
      (trimLetters host)
    have slash : ∀ letter ∈ slashes, letter = '/' := fun letter member =>
      of_decide_eq_true (only letter member)
    exact ⟨stripped host, slashes, whole, slash, last, found, last_of_stripped host last found,
      shown⟩

theorem schemed_with_scheme (letters : List Char) : hasScheme (withScheme letters) = true := by
  unfold withScheme
  split
  · assumption
  · have opens : scheme.isPrefixOf (scheme ++ letters) = true :=
      List.isPrefixOf_iff_prefix.mpr (List.prefix_append ..)
    exact Bool.or_eq_true_iff.mpr (.inl opens)

/-- A scheme opens with a letter, so that blanks in front of it would be no part of it. -/
theorem first_of_schemed (schemed : hasScheme letters = true) :
    letters.head? = some 'h' := by
  rcases Bool.or_eq_true_iff.mp schemed with plain | secure
  · obtain ⟨rest, rfl⟩ := List.isPrefixOf_iff_prefix.mp plain
    rfl
  · obtain ⟨rest, rfl⟩ := List.isPrefixOf_iff_prefix.mp secure
    rfl

theorem opens_of_schemed (schemed : hasScheme letters = true) :
    ∀ first ∈ letters.head?, isBlank first = false := by
  intro first found
  rw [first_of_schemed schemed] at found
  obtain rfl := Option.some.inj found
  decide

theorem last_with_scheme (some : letters ≠ []) :
    (withScheme letters).getLast? = letters.getLast? := by
  unfold withScheme
  split
  · rfl
  · exact List.getLast?_append_of_ne_nil _ some

theorem address_iff_settles : IsAddress (withScheme (stripped host)) ↔ Settles host := by
  rw [settles_iff]
  constructor
  · intro address
    by_cases empty : stripped host = []
    · have slash : '/' ∈ (withScheme (stripped host)).getLast? := by
        rw [empty]
        decide
      exact absurd rfl (address.noSlash '/' slash)
    · refine ⟨_, List.getLast?_eq_getLast_of_ne_nil empty, address.closes _ ?_⟩
      rw [last_with_scheme empty]
      exact List.getLast?_eq_getLast_of_ne_nil empty
  · rintro ⟨last, found, shown⟩
    have some : stripped host ≠ [] := List.ne_nil_of_mem (List.mem_of_mem_getLast? found)
    have schemed := schemed_with_scheme (stripped host)
    have only : ∀ other ∈ (withScheme (stripped host)).getLast?, other = last := by
      rw [last_with_scheme some]
      exact fun other same => Option.mem_unique same found
    refine ⟨⟨opens_of_schemed schemed, fun other same => ?_⟩, schemed, fun other same => ?_⟩
    · rwa [only other same]
    · rw [only other same]
      exact last_of_stripped host last found

theorem stripped_of_address (address : IsAddress letters) : stripped letters = letters := by
  rw [stripped, address.toIsTrimmed.trim_letters]
  exact drop_end_of_last fun last found => decide_eq_false (address.noSlash last found)

/-- A scheme is not put in front of what is left of a bare one, such as that of no host at all. -/
theorem bare_scheme_changes : ∀ part ∈ scheme.inits, part.length < scheme.length →
    stripped (scheme ++ part) ≠ part := by
  decide

theorem address_of_fixed (fixed : withScheme (stripped letters) = letters) :
    IsAddress letters := by
  have schemed : hasScheme letters = true := fixed ▸ schemed_with_scheme (stripped letters)
  have whole : dropBlanks letters = letters := drop_blanks_of_opening (opens_of_schemed schemed)
  have trimmed : trimLetters letters <+: letters := by
    rw [trimLetters, whole]
    exact drop_end_prefix isBlank letters
  have front : stripped letters <+: trimLetters letters := drop_end_prefix _ _
  by_cases kept : hasScheme (stripped letters) = true
  · rw [withScheme, if_pos kept] at fixed
    have same : trimLetters letters = letters :=
      trimmed.eq_of_length_le (by simpa only [fixed] using front.length_le)
    exact ⟨same ▸ is_trimmed_trim letters, schemed, fixed ▸ last_of_stripped letters⟩
  · rw [withScheme, if_neg kept] at fixed
    have opens : scheme <+: letters := ⟨_, fixed⟩
    by_cases short : (stripped letters).length < scheme.length
    · have part : stripped letters <+: scheme :=
        List.prefix_of_prefix_length_le (front.trans trimmed) opens (Nat.le_of_lt short)
      have changes := bare_scheme_changes _ (List.mem_inits _ _ |>.mpr part) short
      rw [fixed] at changes
      exact absurd rfl changes
    · have own : scheme <+: stripped letters :=
        List.prefix_of_prefix_length_le opens (front.trans trimmed) (Nat.le_of_not_lt short)
      exact absurd (Bool.or_eq_true_iff.mpr (.inl (List.isPrefixOf_iff_prefix.mpr own))) kept

theorem fixed_iff_address : withScheme (stripped letters) = letters ↔ IsAddress letters := by
  refine ⟨address_of_fixed, fun address => ?_⟩
  rw [stripped_of_address address, withScheme, if_pos address.schemed]

end Addresses

/-- Every address opens with a scheme and with no blank. It is one to which paths can be added, and
the same address is made of it again, if and only if its host settles; of any other host there is
nothing behind the scheme or a blank at the end. -/
theorem address_settled_iff (host : String) :
    let address := normalizeHost host
    (hasScheme address.toList = true ∧ ∀ first ∈ address.toList.head?, isBlank first = false) ∧
      (IsAddress address.toList ↔ Settles host.toList) ∧
      (normalizeHost address = address ↔ Settles host.toList) ∧
      (Settles host.toList ∨ address = "http://" ∨
        ∃ last ∈ address.toList.getLast?, isBlank last = true) := by
  intro address
  have letters : address.toList = withScheme (stripped host.toList) := normalize_host_letters host
  have schemed : hasScheme address.toList = true := by
    rw [letters]
    exact schemed_with_scheme _
  have settles : IsAddress address.toList ↔ Settles host.toList := by
    rw [letters]
    exact address_iff_settles
  refine ⟨⟨schemed, opens_of_schemed schemed⟩, settles, ?_, ?_⟩
  · rw [← settles, ← fixed_iff_address, ← normalize_host_letters]
    exact String.toList_inj.symm
  · cases found : (stripped host.toList).getLast? with
    | none =>
        right
        left
        rw [← String.toList_inj, letters, List.getLast?_eq_none_iff.mp found]
        rfl
    | some last =>
        have ends : last ∈ address.toList.getLast? := by
          rw [letters, last_with_scheme (List.ne_nil_of_mem (List.mem_of_mem_getLast? found))]
          exact found
        cases blank : isBlank last with
        | false => exact .inl (settles_iff.mpr ⟨last, found, blank⟩)
        | true => exact .inr (.inr ⟨last, ends, blank⟩)

/-- A blank before the slash stays and goes the next time, and so does the end of the scheme that
stands for no host at all. -/
theorem unsettled_address_changes :
    normalizeHost "localhost:8090 /" = "http://localhost:8090 " ∧
      normalizeHost (normalizeHost "localhost:8090 /") = "http://localhost:8090" ∧
      normalizeHost "" = "http://" ∧ normalizeHost (normalizeHost "") = "http://http:" := by
  decide

end CollectionTypes.Client
