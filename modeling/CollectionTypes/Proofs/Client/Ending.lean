import CollectionTypes.Proofs.Client.Token
import CollectionTypes.Proofs.Json.Decoder
import Mathlib.Data.Nat.Find

/-!
Where a listing ends. A server may say of each page what it likes: how many pages there are, and
what is on this one. The pages are asked for in order and once each, up to the first that is empty
or that the server takes for the last one; this page is reached before page numbers run out, because
no reply can announce more pages than there are numbers. Replies that are no listings, and attempts
that fail, are no part of this.
-/

namespace CollectionTypes

open Json (Decoder Tree)

namespace Listing

theorem assign_counted {key : String} {source : Tree} {listing placed : Listing}
    (counted : listing.totalPages < 2 ^ 32)
    (assigned : assign .textual key source listing = .ok placed) : placed.totalPages < 2 ^ 32 := by
  unfold assign at assigned
  split at assigned
  case h_4 =>
    obtain ⟨count, taken, same⟩ := Decoder.bind_eq_ok.mp assigned
    cases same
    exact Decoder.count_of_default taken
  case h_6 =>
    cases assigned
    exact counted
  all_goals
    obtain ⟨part, taken, same⟩ := Decoder.bind_eq_ok.mp assigned
    cases same
    exact counted

/-- No listing that is read announces more pages than a page counter can count. -/
theorem pages_counted {text : String} {listing : Listing} (read : ofText text = .ok listing) :
    listing.totalPages < 2 ^ 32 := by
  obtain ⟨taken, accepted, ended⟩ := Decoder.bind_eq_ok.mp read
  have same : taken = listing := by
    split at ended
    · cases ended
    · obtain ⟨_, _, same⟩ := Decoder.bind_eq_ok.mp ended
      exact Except.ok.inj same
  subst same
  exact Decoder.textual_record_keeps (fun listing => listing.totalPages < 2 ^ 32)
    (Nat.two_pow_pos 32) (fun _ _ _ _ counted assigned => assign_counted counted assigned) accepted

end Listing

namespace Client

/-- Requests for the pages up to one of them, the last request first. -/
def pagesAsked (client : Client) (token : String) (pages : Nat) : List Request :=
  ((List.range' 1 pages).map (client.pageRequest token)).reverse

def itemsUpTo (listings : Nat → Listing) (pages : Nat) : List Collection :=
  (List.range' 1 pages).flatMap fun page => (listings page).items

/-- Whatever page is asked for after those before it, the reply is a success and a listing. -/
structure Replies (client : Client) (token : String) (start : Wire) (listings : Nat → Listing) :
    Prop where
  sendable : ∀ page, (client.pageRequest token page).isSendable = true
  listed : ∀ page, 1 ≤ page → page ≤ greatestPage → ∃ status < Wire.failureCode, ∃ body,
    start.server (client.pagesAsked token page ++ start.sent) = .answer status body ∧
      Listing.ofText body = .ok (listings page)

/-- The first page that is empty or that its own listing takes for the last. -/
def EndsFirst (listings : Nat → Listing) (last : Nat) : Prop :=
  1 ≤ last ∧ ((listings last).items = [] ∨ (listings last).totalPages ≤ last) ∧
    ∀ page, 1 ≤ page → page < last →
      (listings page).items ≠ [] ∧ page < (listings page).totalPages

section Ending

variable {client : Client} {token : String} {start wire : Wire} {listings : Nat → Listing}
  {pages last : Nat}

theorem pages_asked_succ (client : Client) (token : String) (pages : Nat) :
    client.pagesAsked token (pages + 1) =
      client.pageRequest token (pages + 1) :: client.pagesAsked token pages := by
  simp [pagesAsked, List.range'_1_concat, Nat.add_comm 1]

theorem items_up_to_succ (listings : Nat → Listing) (pages : Nat) :
    itemsUpTo listings (pages + 1) = itemsUpTo listings pages ++ (listings (pages + 1)).items := by
  simp [itemsUpTo, List.range'_1_concat, Nat.add_comm 1]

theorem Replies.ends_at_iff (replies : client.Replies token start listings) {page : Nat}
    (started : 1 ≤ page) (within : page ≤ greatestPage) :
    EndsAt (listings page) page ↔
      (listings page).items = [] ∨ (listings page).totalPages ≤ page := by
  obtain ⟨_, _, body, _, read⟩ := replies.listed page started within
  have counted := Listing.pages_counted read
  have whole : lastPage (listings page) = (listings page).totalPages :=
    Nat.min_eq_left (Nat.le_sub_one_of_lt counted)
  rw [EndsAt, whole, List.isEmpty_iff, ge_iff_le]

/-- The page with the greatest number there is cannot announce another one. -/
theorem Replies.some_page_ends (replies : client.Replies token start listings) :
    ∃ last ≤ greatestPage, EndsFirst listings last := by
  let Ends (page : Nat) : Prop :=
    1 ≤ page ∧ ((listings page).items = [] ∨ (listings page).totalPages ≤ page)
  obtain ⟨_, _, body, _, read⟩ := replies.listed greatestPage (by decide) (Nat.le_refl _)
  have counted := Listing.pages_counted read
  have ends : Ends greatestPage := ⟨by decide, .inr (Nat.le_sub_one_of_lt counted)⟩
  have exists_ : ∃ page, Ends page := ⟨greatestPage, ends⟩
  obtain ⟨started, here⟩ := Nat.find_spec exists_
  refine ⟨Nat.find exists_, Nat.find_min' exists_ ends, started, here, fun page later before => ?_⟩
  have goesOn : ¬Ends page := Nat.find_min exists_ before
  simpa [Ends, later] using goesOn

/-- One page more. -/
theorem Replies.obtained (replies : client.Replies token start listings)
    (within : pages + 1 ≤ greatestPage)
    (asked : Wire.Extends start wire (client.pagesAsked token pages)) :
    ∃ next, client.askPage token (pages + 1) wire = (.ok (listings (pages + 1)), next) ∧
      Wire.Extends start next (client.pagesAsked token (pages + 1)) := by
  obtain ⟨status, success, body, answered, read⟩ :=
    replies.listed (pages + 1) (Nat.le_add_left 1 pages) within
  rw [pages_asked_succ, List.cons_append, ← asked.sent, ← asked.server] at answered
  refine ⟨_, Wire.retry_from_ok (Wire.ask_of_answer (replies.sendable _) answered success read), ?_⟩
  refine ⟨asked.server, ?_⟩
  rw [pages_asked_succ, List.cons_append, ← asked.sent]

/-- By induction on the pages that are asked for. -/
theorem Replies.reaches (replies : client.Replies token start listings)
    (within : last ≤ greatestPage) (ends : EndsFirst listings last) (before : pages < last) :
    ∃ wire, client.Reaches token start pages (itemsUpTo listings pages) wire ∧
      Wire.Extends start wire (client.pagesAsked token pages) := by
  induction pages with
  | zero => exact ⟨start, .start, rfl, rfl⟩
  | succ pages induction =>
      obtain ⟨wire, reached, asked⟩ := induction (by omega)
      obtain ⟨next, obtained, all⟩ := replies.obtained (by omega) asked
      have goesOn : ¬EndsAt (listings (pages + 1)) (pages + 1) := by
        rw [replies.ends_at_iff (by omega) (by omega), not_or, Nat.not_le]
        exact ends.2.2 (pages + 1) (by omega) before
      rw [items_up_to_succ]
      exact ⟨next, .page reached obtained goesOn, all⟩

end Ending

def fickleListing : Nat → Listing
  | 1 => { totalPages := 2, items := [{ name := "a" }] }
  | 2 => { totalPages := 4294967295, items := [{ name := "b" }] }
  | _ => { totalPages := 9 }

def fickleText : Nat → String
  | 1 => "\x7b\"totalPages\":2,\"items\":[\x7b\"name\":\"a\"\x7d]\x7d"
  | 2 => "\x7b\"totalPages\":4294967295,\"items\":[\x7b\"name\":\"b\"\x7d]\x7d"
  | _ => "\x7b\"totalPages\":9\x7d"

theorem fickle_text (page : Nat) : Listing.ofText (fickleText page) = .ok (fickleListing page) := by
  have others : Listing.ofText "\x7b\"totalPages\":9\x7d" = .ok { totalPages := 9 } := by
    decide +kernel
  match page with
  | 1 | 2 => decide +kernel
  | 0 | _ + 3 => exact others

def fickleWire : Wire := { server := fun seen => .answer 200 (fickleText seen.length) }

def signedInClient : Client := { host := "http://localhost", token := some "t" }

end Client

end CollectionTypes
