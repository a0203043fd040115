import KeyFlow.Spec

/-!
Outlines of tasks: descriptions by names alone, for flows whose values do not matter yet.
-/

namespace KeyFlow

/-- A task in the making. What it needs and provides adds up, a later predicate or fallback takes
the place of an earlier one. -/
structure TaskOutline where
  name : String
  location : Location
  takesContext : Bool := false
  needed : List Key := []
  provided : List Key := []
  canFail : Bool := false
  predicate : Option (List Key) := none
  fallbackKeys : Option (List Key) := none
  forEffect : Bool := false
  deriving DecidableEq, Repr

namespace TaskOutline

def context (t : TaskOutline) : TaskOutline := { t with takesContext := true }

def needs (t : TaskOutline) (names : List String) : TaskOutline :=
  { t with needed := t.needed ++ names.map .named }

def provides (t : TaskOutline) (names : List String) : TaskOutline :=
  { t with provided := t.provided ++ names.map .named }

def fallible (t : TaskOutline) : TaskOutline := { t with canFail := true }

/-- Gates the task on a predicate of the given inputs. -/
def onlyIf (t : TaskOutline) (names : List String) : TaskOutline :=
  { t with predicate := some (names.map .named) }

def fallback (t : TaskOutline) (names : List String) : TaskOutline :=
  { t with fallbackKeys := some (names.map .named) }

def invoke (t : TaskOutline) : TaskOutline := { t with forEffect := true }

def signature (t : TaskOutline) : Signature where
  params := (if t.takesContext then [.context] else []) ++ t.needed
  results := t.provided ++ (if t.canFail then [.error] else [])

/-- The declaration that the outline stands for; its predicate stands where it does. -/
def decl (t : TaskOutline) : TaskDecl where
  name := some t.name
  location := t.location
  signature := t.signature
  predicate := t.predicate.map fun inputs =>
    { location := t.location, signature := { params := inputs, results := [Key.bool] } }
  fallback := t.fallbackKeys
  invoke := t.forEffect

end TaskOutline

end KeyFlow
