import CollectionTypes.Proofs.Client.Pages

/-!
The course of a listing, whatever the server replies: some pages are obtained that do not end the
list, and then one fails or ends it. A listing comes to the failure of that page, or to all that the
pages hold up to the one that ends it, and to nothing in between.
-/

namespace CollectionTypes.Client

def askPage (client : Client) (token : String) (page : Nat) :
    StateM Wire (Except ClientError Listing) :=
  Wire.withRetry client.retry (Wire.ask (client.pageRequest token page) Listing.ofText)

/-- So many pages from the first on are obtained, none of which ends the list: what they hold in
order, and the wire after them. -/
inductive Reaches (client : Client) (token : String) (start : Wire) :
    Nat → List Collection → Wire → Prop
  | start : Reaches client token start 0 [] start
  | page {pages : Nat} {items : List Collection} {wire next : Wire} {listing : Listing}
      (earlier : Reaches client token start pages items wire)
      (obtained : client.askPage token (pages + 1) wire = (.ok listing, next))
      (goesOn : ¬EndsAt listing (pages + 1)) :
      Reaches client token start (pages + 1) (items ++ listing.items) next

inductive Concludes (client : Client) (token : String) (start : Wire) :
    Except ClientError (List Collection) → Wire → Prop
  | failed {pages : Nat} {items : List Collection} {wire next : Wire} {error : ClientError}
      (earlier : Reaches client token start pages items wire)
      (refused : client.askPage token (pages + 1) wire = (.error error, next)) :
      Concludes client token start (.error error) next
  | complete {pages : Nat} {items : List Collection} {wire next : Wire} {listing : Listing}
      (earlier : Reaches client token start pages items wire)
      (obtained : client.askPage token (pages + 1) wire = (.ok listing, next))
      (ends : EndsAt listing (pages + 1)) :
      Concludes client token start (.ok (items ++ listing.items)) next

section Course

variable {client : Client} {token : String} {start wire next final : Wire} {pages page : Nat}
  {items : List Collection} {result : Except ClientError (List Collection)}

theorem fetch_from_failed {error : ClientError}
    (refused : client.askPage token page wire = (.error error, next)) :
    client.fetchFrom token page wire = (.error error, next) := by
  unfold askPage at refused
  rw [fetchFrom]
  simp only [bind, StateT.bind, refused]
  rfl

/-- Whatever the later pages come to, it is put after what the page holds. -/
theorem fetch_from_next {listing : Listing}
    (obtained : client.askPage token page wire = (.ok listing, next))
    (goesOn : ¬EndsAt listing page)
    (later : client.fetchFrom token (page + 1) next = (result, final)) :
    client.fetchFrom token page wire = (result.map (listing.items ++ ·), final) := by
  cases result with
  | ok rest => exact fetch_from_more obtained goesOn later
  | error error =>
      unfold askPage at obtained
      rw [fetchFrom]
      simp only [bind, StateT.bind, obtained]
      have continues : ¬(listing.items.isEmpty = true ∨ page ≥ lastPage listing) := goesOn
      rw [dif_neg continues]
      simp only [StateT.bind, later]
      rfl

theorem Reaches.fetch_from (reached : client.Reaches token start pages items wire)
    (later : client.fetchFrom token (pages + 1) wire = (result, final)) :
    client.fetchFrom token 1 start = (result.map (items ++ ·), final) := by
  induction reached generalizing result with
  | start => cases result <;> exact later
  | page earlier obtained goesOn induction =>
      rw [induction (fetch_from_next obtained goesOn later)]
      cases result with
      | ok rest => simp [Except.map]
      | error error => rfl

theorem page_lt_of_goes_on {listing : Listing} (goesOn : ¬EndsAt listing page) :
    page < greatestPage := by
  rw [EndsAt, not_or, lastPage] at goesOn
  omega

/-- By induction on the pages that can still be counted. -/
theorem Reaches.concludes (reached : client.Reaches token start pages items wire) :
    ∃ result final, client.Concludes token start result final := by
  induction left : greatestPage - pages using Nat.strongRecOn generalizing pages items wire with
  | ind left induction =>
      rcases ran : client.askPage token (pages + 1) wire with ⟨listed, next⟩
      cases listed with
      | error error => exact ⟨_, _, .failed reached ran⟩
      | ok listing =>
          by_cases ends : EndsAt listing (pages + 1)
          · exact ⟨_, _, .complete reached ran ends⟩
          · have before := page_lt_of_goes_on ends
            exact induction _ (by omega) (.page reached ran ends) rfl

theorem Concludes.fetch_from (concluded : client.Concludes token start result final) :
    client.fetchFrom token 1 start = (result, final) := by
  cases concluded with
  | failed earlier refused => exact earlier.fetch_from (fetch_from_failed refused)
  | complete earlier obtained ends => exact earlier.fetch_from (fetch_from_last obtained ends)

theorem concludes_iff :
    client.Concludes token start result final ↔
      client.fetchFrom token 1 start = (result, final) := by
  refine ⟨Concludes.fetch_from, fun ran => ?_⟩
  have begun : client.Reaches token start 0 [] start := .start
  obtain ⟨concluded, last, course⟩ := begun.concludes
  obtain ⟨rfl, rfl⟩ := Prod.mk.inj (ran.symm.trans course.fetch_from)
  exact course

/-- All that a page is asked for with is a copy of its request. -/
theorem ask_page_sends (client : Client) (token : String) (page : Nat) (wire : Wire) :
    ∃ count, Wire.Extends wire (client.askPage token page wire).2
      (List.replicate count (client.pageRequest token page)) :=
  (Wire.asked_of_with_retry client.retry wire).copies

def PageRequests (client : Client) (token : String) (requests : List Request) : Prop :=
  ∀ request ∈ requests, ∃ page, 1 ≤ page ∧ request = client.pageRequest token page

theorem PageRequests.extend {requests : List Request} {listed : Except ClientError Listing}
    (earlier : client.PageRequests token requests) (extended : Wire.Extends start wire requests)
    (asked : client.askPage token (pages + 1) wire = (listed, next)) :
    ∃ more, Wire.Extends start next more ∧ client.PageRequests token more := by
  obtain ⟨count, copies⟩ := ask_page_sends client token (pages + 1) wire
  rw [asked] at copies
  refine ⟨_, extended.trans copies, fun request member => ?_⟩
  rcases List.mem_append.mp member with copied | before
  · exact ⟨pages + 1, by omega, List.eq_of_mem_replicate copied⟩
  · exact earlier request before

theorem Reaches.requests (reached : client.Reaches token start pages items wire) :
    ∃ requests, Wire.Extends start wire requests ∧ client.PageRequests token requests := by
  induction reached with
  | start => exact ⟨[], ⟨rfl, rfl⟩, fun request member => by contradiction⟩
  | page earlier obtained goesOn induction =>
      obtain ⟨requests, extended, paged⟩ := induction
      exact paged.extend extended obtained

theorem Concludes.requests (concluded : client.Concludes token start result final) :
    ∃ requests, Wire.Extends start final requests ∧ client.PageRequests token requests := by
  cases concluded with
  | failed earlier refused =>
      obtain ⟨requests, extended, paged⟩ := earlier.requests
      exact paged.extend extended refused
  | complete earlier obtained ends =>
      obtain ⟨requests, extended, paged⟩ := earlier.requests
      exact paged.extend extended obtained

end Course

end CollectionTypes.Client
