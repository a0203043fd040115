/-!
Keys name the values that pass between tasks. A name, a type and a marker that read alike are
still different keys, so equality is equality of constructors and never of displayed text.
-/

namespace KeyFlow

inductive Key where
  | named (name : String)
  | typed (type : String)
  /-- Stands for the cancellation context among the parameters of a signature. -/
  | context
  /-- Stands for the error among the results of a signature. -/
  | error
  /-- What the predicate of the task with this ordinal produces. -/
  | verdict (ordinal : Nat)
  /-- What the task with this ordinal produces when it is run for its effects only. -/
  | finished (ordinal : Nat)
  deriving DecidableEq, Repr

namespace Key

/-- The type of a predicate's result. -/
def bool : Key := .typed "bool"

def text : Key → String
  | .named name => name
  | .typed type => type
  | .context => "context"
  | .error => "error"
  | .verdict ordinal => s!"predicate#{ordinal}"
  | .finished ordinal => s!"invoke#{ordinal}"

/-- Sentinels are made by the compiler and carry no value of the user. -/
def isSentinel : Key → Bool
  | .verdict _ | .finished _ => true
  | _ => false

/-- Markers hold a place in a signature and are never provided. -/
def isMarker : Key → Bool
  | .context | .error => true
  | _ => false

end Key

end KeyFlow
