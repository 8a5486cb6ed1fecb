import CollectionTypes.Proofs.Generator.Allocation
import CollectionTypes.Proofs.Naming.Settled

/-!
Requests for names, in any order: for a name alone, for what a collection declares and for what an
enumeration declares. Each is answered after a number of rounds that what is taken bounds, with the
first suffix that has all declarations free, and adds these and nothing else; so no name is handed
out twice. Suffixes are numbers of any size here, and the bound says how large one can get.
-/

namespace CollectionTypes

inductive NameRequest where
  | single (stem : String)
  | collection (target : Target) (stem : String)
  | enumeration (target : Target) (literals : List String) (stem : String)
deriving DecidableEq, Repr

namespace NameRequest

def stem : NameRequest → String
  | .single stem | .collection _ stem | .enumeration _ _ stem => stem

def declares : NameRequest → String → List String
  | .single _ => fun name => [name]
  | .collection target _ => target.collectionDeclarations
  | .enumeration target literals _ => target.enumDeclarations literals

def answer (space : Namespace) : NameRequest → String × Namespace
  | .single stem => space.claim stem
  | .collection target stem => space.claimGroup stem target.collectionDeclarations
  | .enumeration target literals stem => space.claimGroup stem (target.enumDeclarations literals)

def answers (space : Namespace) : List NameRequest → List (List String) × Namespace
  | [] => ([], space)
  | request :: later =>
      let (name, next) := request.answer space
      let (groups, last) := answers next later
      (request.declares name :: groups, last)

theorem answer_eq_claim_group (space : Namespace) (request : NameRequest) :
    request.answer space = space.claimGroup request.stem request.declares := by
  cases request <;> rfl

def enumerationOf (literals : List String) : Claimant :=
  .enumeration { name := "", owner := "", kind := .enumeration, data := .options literals }

theorem declares_traceable (request : NameRequest) : Namespace.Traceable request.declares := by
  cases request with
  | single stem => exact Namespace.traceable_single
  | collection target stem => exact (Claimant.collection stem).declares_traceable target
  | enumeration target literals stem => exact (enumerationOf literals).declares_traceable target

theorem declares_nodup (request : NameRequest) (name : String) : (request.declares name).Nodup := by
  cases request with
  | single stem => exact List.nodup_singleton name
  | collection target stem => exact (Claimant.collection stem).declares_nodup target name
  | enumeration target literals stem => exact (enumerationOf literals).declares_nodup target name

/-- A request as it is answered. The search ends by itself, after a number of rounds that is known
beforehand; its stem settles on a name, and what goes with this name is taken from then on. -/
structure Granted (space : Namespace) (request : NameRequest) (suffix : Nat) : Prop where
  ends : Namespace.Ends space request.stem request.declares 1 suffix
  search : ∀ bound, suffix ≤ bound →
    space.search request.stem request.declares bound 1 = Namespace.candidate request.stem suffix
  rounds : suffix ≤ (request.declares request.stem).length * space.taken.length + 1
  name : (request.answer space).1 = Namespace.candidate request.stem suffix
  settled : Namespace.Settled space.taken request.declares request.stem (request.answer space).1
  added : Namespace.HandedOut space (request.answer space).2
    (request.declares (request.answer space).1)

theorem granted (space : Namespace) (request : NameRequest) :
    ∃ suffix, Granted space request suffix := by
  have traceable := request.declares_traceable
  obtain ⟨suffix, first, claimed⟩ := Namespace.claim_group_spec traceable space request.stem
  rw [← answer_eq_claim_group] at claimed
  have name := congrArg Prod.fst claimed
  refine ⟨suffix, first.ends, fun _ => first.search, first.suffix_le traceable, name, ?_, ?_⟩
  · rw [name]
    exact first.settled
  · rw [claimed]
    exact ⟨request.declares_nodup _, (Namespace.is_free_iff space _).mp first.free,
      fun other => List.mem_append⟩

theorem answers_handed_out (space : Namespace) (requests : List NameRequest) :
    Namespace.HandedOut space (answers space requests).2 (answers space requests).1.flatten := by
  induction requests generalizing space with
  | nil => exact Namespace.handed_out_none space
  | cons request later induction =>
      obtain ⟨suffix, granted⟩ := granted space request
      exact granted.added.append (induction (request.answer space).2)

/-- Every request is granted, and the groups of names that a sequence of requests gets are pairwise
disjoint, and disjoint from what was taken before. -/
theorem requests_granted_apart :
    (∀ space request, ∃ suffix, Granted space request suffix) ∧
      ∀ space requests,
        (answers space requests).1.Pairwise List.Disjoint ∧
          Namespace.HandedOut space (answers space requests).2
            (answers space requests).1.flatten := by
  refine ⟨granted, ?_⟩
  intro space requests
  have handedOut := answers_handed_out space requests
  exact ⟨(List.nodup_flatten.mp handedOut.distinct).2, handedOut⟩

/-- A group moves as a whole: the type and its constant are free, but another constant is not. -/
example : (answers ⟨["SizeOptionsX2"]⟩
    [.enumeration .goStruct ["x", "X"] "SizeOptions", .single "SizeOptions2"]).1 =
      [["SizeOptions2", "SizeOptions2X", "SizeOptions2X2"], ["SizeOptions22"]] := by
  decide +kernel

end NameRequest

end CollectionTypes
