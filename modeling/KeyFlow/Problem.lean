import KeyFlow.Spec

/-!
Problems found in a declaration. A problem says what is wrong as a cause; its kind and its wording
are functions of that cause, and an issue puts it at a place.
-/

namespace KeyFlow

/-- Nodes of a graph are numbered in the order in which they are declared. -/
abbrev NodeId := Nat

/-- One hop of a dependency cycle: `node` has to run to provide `provides`. -/
structure CycleStep where
  node : NodeId
  label : String
  provides : Key
  deriving DecidableEq, Repr

inductive ProblemKind where
  | duplicateInput
  | duplicateOutput
  | duplicateProvider
  | missingProvider
  | unusedInput
  | unusedOutput
  | invalidSignature
  | invalidPredicate
  | invalidFallback
  | invalidInvoke
  | invalidOption
  | cycle (chain : List CycleStep)
  deriving DecidableEq, Repr

/-- The two ways to run one body for each element of a collection. -/
inductive FanKind where
  | slice
  | map
  deriving DecidableEq, Repr

def FanKind.text : FanKind → String
  | .slice => "slice"
  | .map => "map"

inductive Problem where
  | duplicateInput (key : Key) (earlier : Location)
  | duplicateOutput (key : Key)
  | providesInput (key : Key) (declared : Location)
  | duplicateProvider (key : Key) (earlier : Location)
  | missingProvider (key : Key)
  | unusedInput (key : Key)
  | unusedOutput (key : Key)
  | taskSignature (misuse : Misuse)
  | taskWithoutBody
  | predicateSignature (misuse : Misuse)
  | predicateTakesContext
  | predicateResult (signature : Signature)
  | predicateWithoutBody
  | fallbackWithoutError
  | fallbackCount (expected got : Nat)
  | fallbackKey (position : Nat) (given wanted : Key)
  | producesNothing
  | invokeProduces (count : Nat)
  | flowContinuesOnError
  | nothingToRun
  | endContinuesOnError (unit : FanKind)
  | cycle (chain : List CycleStep)
  deriving DecidableEq, Repr

namespace Problem

def kind : Problem → ProblemKind
  | .duplicateInput .. => .duplicateInput
  | .duplicateOutput _ => .duplicateOutput
  | .providesInput .. | .duplicateProvider .. => .duplicateProvider
  | .missingProvider _ => .missingProvider
  | .unusedInput _ => .unusedInput
  | .unusedOutput _ => .unusedOutput
  | .taskSignature _ | .taskWithoutBody => .invalidSignature
  | .predicateSignature _ | .predicateTakesContext | .predicateResult _
  | .predicateWithoutBody => .invalidPredicate
  | .fallbackWithoutError | .fallbackCount .. | .fallbackKey .. => .invalidFallback
  | .producesNothing | .invokeProduces _ => .invalidInvoke
  | .flowContinuesOnError | .nothingToRun | .endContinuesOnError _ => .invalidOption
  | .cycle chain => .cycle chain

def hopText (s : CycleStep) : String :=
  s!"need to run [{s.label}] to provide {s.provides.text}"

/-- The first hop is marked as the output asked for, each other stands on a line of its own. -/
def chainText : List CycleStep → String
  | [] => ""
  | first :: rest =>
    rest.foldl (fun text s => text ++ "\n\t" ++ hopText s) (hopText first ++ " (output)")

def message : Problem → String
  | .duplicateInput k l | .providesInput k l =>
    s!"type {k.text} already provided as a flow input at {l.text}"
  | .duplicateOutput k => s!"type {k.text} already requested as a flow output"
  | .duplicateProvider k l => s!"type {k.text} already provided at {l.text}"
  | .missingProvider k => s!"no provider found for {k.text}"
  | .unusedInput k => s!"unused input type {k.text}"
  | .unusedOutput k => s!"unused output type {k.text}"
  | .taskSignature m | .predicateSignature m => m.text
  | .taskWithoutBody => "task has no body; call run() to provide one"
  | .predicateTakesContext => "predicates cannot accept the cancellation context"
  | .predicateResult s => s!"predicate must return a single bool, got {s.text}"
  | .predicateWithoutBody => "predicate has no body; call check() to provide one"
  | .fallbackWithoutError => "task must return an error for fallback values to be used"
  | .fallbackCount expected got =>
    s!"fallback values must match the task results: expected {expected}, got {got}"
  | .fallbackKey i given wanted =>
    s!"fallback value at position {i} of type {given.text} cannot be used as {wanted.text}"
  | .producesNothing =>
    "task must return at least one non-error value but currently produces zero; " ++
      "did you intend to mark it invoke?"
  | .invokeProduces count => s!"invoke tasks must not produce results, found {count}"
  | .flowContinuesOnError =>
    "continue_on_error is not a valid flow option; use Parallel for independent tasks"
  | .nothingToRun => "parallel needs at least one task, slice or map"
  | .endContinuesOnError unit =>
    s!"{unit.text} end function cannot be used with continue_on_error"
  | .cycle chain => "cycle detected: " ++ chainText chain

end Problem

/-- A problem and the place where it shows. -/
structure Issue where
  location : Location
  problem : Problem
  deriving DecidableEq, Repr

/-- What a reader is shown of an issue. -/
structure Diagnostic where
  location : Location
  kind : ProblemKind
  message : String
  deriving DecidableEq, Repr

def Issue.diagnostic (i : Issue) : Diagnostic :=
  ⟨i.location, i.problem.kind, i.problem.message⟩

namespace Diagnostic

def text (d : Diagnostic) : String := s!"{d.location.text}: {d.message}"

def isCycle (d : Diagnostic) : Bool :=
  match d.kind with
  | .cycle _ => true
  | _ => false

end Diagnostic

end KeyFlow
