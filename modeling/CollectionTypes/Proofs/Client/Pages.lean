import CollectionTypes.Client.Basic
import CollectionTypes.Proofs.Client.Attempts
import Mathlib.Algebra.Order.Floor.Div

/-!
Listings that are fetched page by page. Pages are asked for one after the other, each as often as it
takes, up to the first that is empty or the last one announced; what they hold is put together in
order. A list that is served in pages of any size therefore comes back whole. Servers whose lists
change between two pages are no part of this, and neither are lists of more pages than a page
counter can count.
-/

namespace CollectionTypes

namespace Listing

section Slices

variable {α : Type} {items : List α} {size : Nat}

def pageOf (items : List α) (size page : Nat) : List α := (items.drop ((page - 1) * size)).take size

def pageCount (items : List α) (size : Nat) : Nat := items.length ⌈/⌉ size

theorem page_count_le_iff {count : Nat} (positive : 1 ≤ size) :
    pageCount items size ≤ count ↔ items.length ≤ count * size := by
  rw [pageCount, ceilDiv_le_iff_le_mul positive, Nat.mul_comm]

theorem page_not_empty {page : Nat} (positive : 1 ≤ size) (started : 1 ≤ page)
    (within : page ≤ pageCount items size) : (pageOf items size page).isEmpty = false := by
  have beyond : ¬items.length ≤ (page - 1) * size := by
    rw [← page_count_le_iff positive]
    omega
  rw [← Bool.not_eq_true, List.isEmpty_iff, pageOf, List.take_eq_nil_iff, List.drop_eq_nil_iff]
  omega

theorem pages_from (items : List α) (size before count : Nat) :
    (List.range' (before + 1) count).flatMap (pageOf items size) =
      (items.drop (before * size)).take (count * size) := by
  induction count generalizing before with
  | zero => simp
  | succ count induction =>
      have first : (before + 1 - 1) * size = before * size := by rw [Nat.add_sub_cancel]
      have later : (before + 1) * size = before * size + size := Nat.succ_mul before size
      have total : (count + 1) * size = size + count * size := by rw [Nat.succ_mul, Nat.add_comm]
      rw [List.range'_succ, List.flatMap_cons, induction (before + 1), pageOf, first, later, total,
        List.take_add, List.drop_drop]

theorem pages_whole {count : Nat} (enough : items.length ≤ count * size) :
    (List.range' 1 count).flatMap (pageOf items size) = items := by
  have pages := pages_from items size 0 count
  rwa [Nat.zero_mul, List.drop_zero, List.take_of_length_le enough] at pages

end Slices

end Listing

namespace Client

/-- What is sent for some pages, the last request first: each page is asked for once for every
failure, and once more. -/
def requestsFor (client : Client) (token : String) (failures : Nat → Nat) : Nat → List Request
  | 0 => []
  | pages + 1 =>
      List.replicate (failures (pages + 1) + 1) (client.pageRequest token (pages + 1)) ++
        client.requestsFor token failures pages

def EndsAt (listing : Listing) (page : Nat) : Prop :=
  listing.items.isEmpty ∨ page ≥ lastPage listing

/-- What the server makes of the requests for the pages up to one of them, each page after those
before it: some failures, fewer than the attempts, and then the listing. -/
structure Served (client : Client) (token : String) (start : Wire) (failures : Nat → Nat)
    (listings : Nat → Listing) (last : Nat) : Prop where
  few : ∀ page, 1 ≤ page → page ≤ last → failures page < client.retry.maxAttempts
  listed : ∀ page, 1 ≤ page → page ≤ last → ∃ body,
    Recovers start.server (client.requestsFor token failures (page - 1) ++ start.sent)
      (client.pageRequest token page) (failures page) body ∧
    Listing.ofText body = .ok (listings page)

section Step

variable {client : Client} {token : String} {page : Nat} {wire next final : Wire}
  {listing : Listing}

theorem fetch_from_last
    (ran : Wire.withRetry client.retry
      (Wire.ask (client.pageRequest token page) Listing.ofText) wire = (.ok listing, next))
    (ends : EndsAt listing page) :
    client.fetchFrom token page wire = (.ok listing.items, next) := by
  rw [fetchFrom]
  simp only [bind, StateT.bind, ran]
  have stops : listing.items.isEmpty = true ∨ page ≥ lastPage listing := ends
  rw [dif_pos stops]
  rfl

theorem fetch_from_more {rest : List Collection}
    (ran : Wire.withRetry client.retry
      (Wire.ask (client.pageRequest token page) Listing.ofText) wire = (.ok listing, next))
    (goesOn : ¬EndsAt listing page)
    (later : client.fetchFrom token (page + 1) next = (.ok rest, final)) :
    client.fetchFrom token page wire = (.ok (listing.items ++ rest), final) := by
  rw [fetchFrom]
  simp only [bind, StateT.bind, ran]
  have continues : ¬(listing.items.isEmpty = true ∨ page ≥ lastPage listing) := goesOn
  rw [dif_neg continues]
  simp only [StateT.bind, later]
  rfl

end Step

section Run

variable {client : Client} {token : String} {start : Wire} {failures : Nat → Nat}
  {listings : Nat → Listing} {last : Nat}

/-- The next page is listed, however the wire came to stand where it does. -/
theorem Served.next_page (served : client.Served token start failures listings last)
    {pages : Nat} {wire : Wire} (before : pages < last)
    (reached : Wire.Extends start wire (client.requestsFor token failures pages)) :
    ∃ next, Wire.withRetry client.retry
        (Wire.ask (client.pageRequest token (pages + 1)) Listing.ofText) wire =
          (.ok (listings (pages + 1)), next) ∧
      Wire.Extends start next (client.requestsFor token failures (pages + 1)) := by
  have few := served.few (pages + 1) (by omega) before
  obtain ⟨body, recovers, decoded⟩ := served.listed (pages + 1) (by omega) before
  rw [Nat.add_sub_cancel, ← reached.sent, ← reached.server] at recovers
  obtain ⟨next, ran, asked⟩ := Wire.with_retry_recovers few recovers decoded
  exact ⟨next, ran, reached.trans asked⟩

/-- By induction on the pages that are left after those that are already there. -/
theorem Served.fetch_from (served : client.Served token start failures listings last)
    (goesOn : ∀ page, 1 ≤ page → page < last → ¬EndsAt (listings page) page)
    (ends : EndsAt (listings last) last) {left pages : Nat} {wire : Wire}
    (split : pages + (left + 1) = last)
    (reached : Wire.Extends start wire (client.requestsFor token failures pages)) :
    ∃ next, client.fetchFrom token (pages + 1) wire =
        (.ok ((List.range' (pages + 1) (left + 1)).flatMap fun page => (listings page).items),
          next) ∧
      Wire.Extends start next (client.requestsFor token failures last) := by
  induction left generalizing pages wire with
  | zero =>
      obtain ⟨next, ran, all⟩ := served.next_page (by omega) reached
      subst split
      refine ⟨next, ?_, all⟩
      rw [fetch_from_last ran ends]
      simp
  | succ left induction =>
      obtain ⟨listed, ran, here⟩ := served.next_page (by omega) reached
      obtain ⟨next, rest, all⟩ := induction (by omega) here
      refine ⟨next, ?_, all⟩
      rw [fetch_from_more ran (goesOn (pages + 1) (by omega) (by omega)) rest,
        List.range'_succ (s := pages + 1), List.flatMap_cons]

/-- A signed-in client gets what the pages hold, up to the first that ends the list. -/
theorem Served.fetch_collections (served : client.Served token start failures listings last)
    (signedIn : client.token = some token) (somePage : 1 ≤ last)
    (goesOn : ∀ page, 1 ≤ page → page < last → ¬EndsAt (listings page) page)
    (ends : EndsAt (listings last) last) :
    ∃ next, client.fetchCollections start =
        (.ok ((List.range' 1 last).flatMap fun page => (listings page).items), next) ∧
      Wire.Extends start next (client.requestsFor token failures last) := by
  have nothing : Wire.Extends start start (client.requestsFor token failures 0) := ⟨rfl, rfl⟩
  have split : 0 + (last - 1 + 1) = last := by omega
  obtain ⟨next, ran, all⟩ := served.fetch_from goesOn ends split nothing
  rw [Nat.zero_add, Nat.sub_add_cancel somePage] at ran
  let collections := (List.range' 1 last).flatMap fun page => (listings page).items
  refine ⟨{ next with log := next.log ++ [⟨.info, client.fetchedMessage collections⟩] }, ?_,
    all.server, all.sent⟩
  simp only [fetchCollections, signedIn, bind, StateT.bind, ran]
  rfl

end Run

section Whole

variable {client : Client} {token : String} {start : Wire} {failures : Nat → Nat}
  {listings : Nat → Listing} {collections : List Collection} {size : Nat}

end Whole

def threeCollections : List Collection := [{ name := "a" }, { name := "b" }, { name := "c" }]

def threeListed (page : Nat) : Listing :=
  { totalPages := 2, items := Listing.pageOf threeCollections 2 page }

def threeListedText (page : Nat) : String :=
  let items := if page = 1 then "\x7b\"name\":\"a\"\x7d,\x7b\"name\":\"b\"\x7d"
    else "\x7b\"name\":\"c\"\x7d"
  "\x7b\"totalPages\":2,\"items\":[" ++ items ++ "]\x7d"

theorem three_listed_text : ∀ page ∈ [1, 2],
    Listing.ofText (threeListedText page) = .ok (threeListed page) := by
  decide +kernel

def unsteadyServer : Server := fun seen =>
  match seen.length with
  | 1 => .dropped
  | 2 => .answer 200 (threeListedText 1)
  | 3 => .answer 503 ""
  | _ => .answer 200 (threeListedText 2)

def patientClient : Client :=
  { host := "http://localhost", retry := { maxAttempts := 2 }, perPage := 2, token := some "t" }

end Client

end CollectionTypes
