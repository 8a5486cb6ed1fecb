import CollectionTypes.Text.Digits

/-!
Namespaces hand out names, each at most once. A stem that is taken gets the smallest free suffix
from 2. Several names that depend on one stem are claimed together, as a group: the suffix is the
smallest with which all of them are free.
-/

namespace CollectionTypes

structure Namespace where
  taken : List String := []
deriving DecidableEq, Repr, Inhabited

namespace Namespace

/-- The candidates of a stem: the stem itself, then the stem with 2, 3 and so on. -/
def candidate (stem : String) (suffix : Nat) : String :=
  if suffix ≤ 1 then stem else stem ++ Text.Decimal.write suffix

def isFree (space : Namespace) (names : List String) : Bool :=
  names.all fun name => !space.taken.contains name

/-- How many suffixes can be blocked: a taken name blocks a declaration that contains the stem for
at most as many suffixes as the name has letters. -/
def searchBound (space : Namespace) (declarations : Nat) : Nat :=
  declarations * space.taken.foldl (fun total name => total + (name.length + 1)) 0 + 1

/-- The first candidate from `suffix` on with which all declarations are free. -/
def search (space : Namespace) (stem : String) (declares : String → List String) :
    Nat → Nat → String
  | 0, suffix => candidate stem suffix
  | bound + 1, suffix =>
      if space.isFree (declares (candidate stem suffix)) then candidate stem suffix
      else search space stem declares bound (suffix + 1)

def add (space : Namespace) (names : List String) : Namespace := ⟨names ++ space.taken⟩

def claimGroup (space : Namespace) (stem : String) (declares : String → List String) :
    String × Namespace :=
  let name := space.search stem declares (space.searchBound (declares stem).length) 1
  (name, space.add (declares name))

def claim (space : Namespace) (stem : String) : String × Namespace :=
  space.claimGroup stem fun name => [name]

def claimAll (space : Namespace) : List String → List String × Namespace
  | [] => ([], space)
  | stem :: stems =>
      let (name, next) := space.claim stem
      let (names, last) := next.claimAll stems
      (name :: names, last)

end Namespace

/-- Distinct names for literals, made by `transform` and suffixed where they meet. -/
def uniqueNames (transform : String → String) (literals : List String) : List String :=
  ((({} : Namespace).claimAll (literals.map transform)).1)

end CollectionTypes
