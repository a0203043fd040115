import KeyFlow.Emitter
import KeyFlow.Problem
import KeyFlow.Settings.Run
import KeyFlow.TaskContext

/-!
Independent units of work: tasks, and slices and maps, which run one body for each of their elements
and may end with a body that waits for all of them. Apart from that nothing depends on anything.
Every problem of a declaration is reported in one pass.
-/

namespace KeyFlow

/-- The body of one job, which is told the number of its job. -/
abbrev UnitBody : Type := Nat → TaskBody Unit

/-- A unit as it is declared. -/
inductive UnitDecl where
  | task (name : String) (location : Location) (body : Option UnitBody)
  | fanOut (kind : FanKind) (name : String) (location : Location) (items : List UnitBody)
    (finish : Option UnitBody)

/-- A unit that can be run. -/
inductive WorkUnit where
  | task (name : String) (body : UnitBody)
  | fanOut (name : String) (items : List UnitBody) (finish : Option UnitBody)

namespace WorkUnit

def name : WorkUnit → String
  | .task name _ | .fanOut name .. => name

def isFanOut : WorkUnit → Bool
  | .task .. => false
  | .fanOut .. => true

end WorkUnit

namespace UnitDecl

/-- What is wrong with a unit. An end function needs every element to succeed, so it has no place
in a run that goes on after failures. -/
def issue? (continueOnError : Bool) : UnitDecl → Option Issue
  | .task _ location none => some ⟨location, .taskWithoutBody⟩
  | .task _ _ (some _) => none
  | .fanOut kind _ location _ finish =>
    if finish.isSome && continueOnError then some ⟨location, .endContinuesOnError kind⟩ else none

/-- The unit that a declaration stands for; a task without a body stands for none. -/
def unit? : UnitDecl → Option WorkUnit
  | .task name _ body => body.map (.task name)
  | .fanOut _ name _ items finish => some (.fanOut name items finish)

end UnitDecl

structure ParallelSpec where
  name : String
  location : Location
  units : List UnitDecl
  settings : RunSettings := {}
  emitter : Emitter := .silent

structure Parallel where
  name : String
  units : List WorkUnit
  settings : RunSettings
  emitter : Emitter

namespace ParallelSpec

def issues (s : ParallelSpec) : List Issue :=
  (if s.units.isEmpty then [⟨s.location, .nothingToRun⟩] else []) ++
    s.units.filterMap (UnitDecl.issue? s.settings.continueOnError)

def build (s : ParallelSpec) : Except (List Issue) Parallel :=
  match s.issues with
  | [] => .ok ⟨s.name, s.units.filterMap UnitDecl.unit?, s.settings, s.emitter⟩
  | found => .error found

end ParallelSpec

end KeyFlow
