import CollectionTypes.Collection.Basic
import CollectionTypes.Text.Lowercase

/-!
Choosing collections by rule. Names in a rule stand for a collection whatever their letter case, in
any script; a warning about a name that is not there compares ASCII letters only.
-/

namespace CollectionTypes

structure SelectionPolicy where
  /-- Take system collections too. -/
  all : Bool := false
  /-- If not empty, take nothing else. -/
  includes : List String := []
  excludes : List String := []
deriving DecidableEq, Repr

def asciiLower (text : String) : String := String.ofList (text.toList.map (·.toLower))

def sameIgnoringAsciiCase (left right : String) : Bool := asciiLower left == asciiLower right

namespace SelectionPolicy

def mentions (names : List String) (name : String) : Bool :=
  names.any fun other => Text.sameIgnoringCase other name

def accepts (policy : SelectionPolicy) (collection : Collection) : Bool :=
  let included := mentions policy.includes collection.name
  if !policy.includes.isEmpty && !included then false
  else if mentions policy.excludes collection.name then false
  else !collection.system || policy.all || included

def select (policy : SelectionPolicy) (collections : List Collection) : List Collection :=
  collections.filter policy.accepts

/-- Included names that no collection has. -/
def missing (policy : SelectionPolicy) (collections : List Collection) : List String :=
  policy.includes.filter fun name => !collections.any fun collection =>
    sameIgnoringAsciiCase collection.name name

def missingMessage (name : String) : String := "Included collection '" ++ name ++ "' does not exist"

def warnings (policy : SelectionPolicy) (collections : List Collection) : List String :=
  (policy.missing collections).map missingMessage

end SelectionPolicy

end CollectionTypes
