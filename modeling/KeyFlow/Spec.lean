import KeyFlow.Location
import KeyFlow.Signature

/-!
The description of a flow as its author wrote it, before any check.
-/

namespace KeyFlow

/-- An input or an output that a flow declares. -/
structure Declared where
  key : Key
  location : Location
  deriving DecidableEq, Repr

/-- A predicate decides whether its task runs. -/
structure PredicateDecl where
  location : Location
  signature : Signature
  deriving DecidableEq, Repr

structure TaskDecl where
  name : Option String := none
  location : Location
  signature : Signature
  predicate : Option PredicateDecl := none
  /-- Keys of the values that stand in when the task fails, in the order of its results. -/
  fallback : Option (List Key) := none
  /-- The task is run for its effects and returns nothing but an error. -/
  invoke : Bool := false
  deriving DecidableEq, Repr

structure Spec where
  name : String
  location : Location
  inputs : List Declared
  outputs : List Declared
  tasks : List TaskDecl
  deriving DecidableEq, Repr

/-- An unnamed task goes by the place where it is declared. -/
def TaskDecl.title (t : TaskDecl) : String :=
  t.name.getD s!"task@{t.location.text}"

end KeyFlow
