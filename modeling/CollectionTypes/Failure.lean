/-!
Why a command failed: what was being done, from the outside in, and the cause.
-/

namespace CollectionTypes

structure Failure where
  contexts : List String := []
  cause : String
deriving DecidableEq, Repr, Inhabited

namespace Failure

/-- Puts what was being done around a failure. -/
def within (context : String) (failure : Failure) : Failure :=
  { failure with contexts := context :: failure.contexts }

def chain (failure : Failure) : List String := failure.contexts ++ [failure.cause]

def outermost (failure : Failure) : String := failure.contexts.headD failure.cause

/-- The first line of a report. -/
def headline (failure : Failure) : String := "Error: " ++ failure.outermost

/-- The whole report: the headline and what lies behind it. -/
def report (failure : Failure) : String :=
  match failure.chain.tail with
  | [] => failure.headline ++ "\n"
  | causes =>
      failure.headline ++ "\n\nCaused by:\n" ++
        String.join (causes.map fun cause => "    " ++ cause ++ "\n")

end Failure

end CollectionTypes
