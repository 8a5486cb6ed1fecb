/-!
Log entries: what a run tells about itself, apart from its results.
-/

namespace CollectionTypes.Log

inductive Level where
  | error
  | warn
  | info
deriving DecidableEq, Repr

namespace Level

def name : Level → String
  | .error => "ERROR"
  | .warn => "WARN"
  | .info => "INFO"

/-- The more detail a level stands for, the higher its rank. -/
def rank : Level → Nat
  | .error => 1
  | .warn => 2
  | .info => 3

/-- The rank that a level has in a filter; `debug` and `trace` stand for more than there is. -/
def rankOfName? : String → Option Nat
  | "off" | "0" => some 0
  | "" | "error" | "1" => some error.rank
  | "warn" | "2" => some warn.rank
  | "info" | "3" => some info.rank
  | "debug" | "4" => some 4
  | "trace" | "5" => some 5
  | _ => none

end Level

/-- The rank up to which entries are shown. A filter counts whatever else is asked for; one that is
not a level names a part of a program, and there is no such part here. -/
def shownRank (quiet : Bool) (filter : Option String) : Nat :=
  match filter with
  | some name => (Level.rankOfName? (String.ofList (name.toList.map (·.toLower)))).getD 0
  | none => if quiet then Level.error.rank else Level.info.rank

structure Entry where
  level : Level
  text : String
deriving DecidableEq, Repr

def Entry.write (entry : Entry) : String := entry.level.name ++ " " ++ entry.text

def shown (rank : Nat) (log : List Entry) : List Entry := log.filter (·.level.rank ≤ rank)

end CollectionTypes.Log
