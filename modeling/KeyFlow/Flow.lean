import KeyFlow.Emitter
import KeyFlow.Plan
import KeyFlow.Settings.Run
import KeyFlow.TaskContext

/-!
Flows with bodies. A flow is declared task by task, each with its signature and its body, and maybe
with a predicate that gates it and values that stand in when it fails. Building compiles it; what is
wrong with the bodies is reported after what is wrong with the signatures.
-/

namespace KeyFlow

structure FlowPredicate where
  location : Location
  params : List Key
  check : Option (TaskBody Bool)

/-- A task as it is declared in a flow. -/
structure FlowTask where
  name : String
  location : Location
  signature : Signature
  body : Option (TaskBody Unit)
  predicate : Option FlowPredicate := none
  /-- Values that stand in when the task fails, in the order of its outputs. -/
  fallback : Option (List (Key × Value)) := none
  /-- The task is run for its effects. -/
  invoke : Bool := false

/-- The part of a task that runs. -/
structure TaskWork where
  body : TaskBody Unit
  check : Option (TaskBody Bool)
  fallback : Option (List Value)

namespace FlowPredicate

def decl (p : FlowPredicate) : PredicateDecl :=
  ⟨p.location, { params := p.params, results := [Key.bool] }⟩

end FlowPredicate

namespace FlowTask

/-- What the compiler sees of a task. -/
def decl (t : FlowTask) : TaskDecl where
  name := some t.name
  location := t.location
  signature := t.signature
  predicate := t.predicate.map FlowPredicate.decl
  fallback := t.fallback.map fun values => values.map (·.1)
  invoke := t.invoke

/-- What is wrong with the bodies of a task, its predicate first. -/
def issues (t : FlowTask) : List Issue :=
  (match t.predicate with
    | some ⟨location, _, none⟩ => [⟨location, .predicateWithoutBody⟩]
    | _ => []) ++
  if t.body.isNone then [⟨t.location, .taskWithoutBody⟩] else []

/-- The running part of a task that has a body. -/
def work? (t : FlowTask) : Option TaskWork :=
  t.body.map fun body =>
    ⟨body, t.predicate.bind (·.check), t.fallback.map fun values => values.map (·.2)⟩

end FlowTask

structure FlowSpec where
  name : String
  location : Location
  inputs : List Declared
  outputs : List Declared
  tasks : List FlowTask
  settings : RunSettings := {}
  emitter : Emitter := .silent

/-- A flow that is ready to run, any number of times. -/
structure Flow where
  plan : Plan
  /-- The running parts of all tasks in the order of their declaration. -/
  works : List TaskWork
  settings : RunSettings
  emitter : Emitter

namespace FlowSpec

/-- The flow as the compiler sees it. -/
def spec (s : FlowSpec) : Spec where
  name := s.name
  location := s.location
  inputs := s.inputs
  outputs := s.outputs
  tasks := s.tasks.map FlowTask.decl

/-- What is wrong apart from the signatures. A flow stops at its first failure. -/
def issues (s : FlowSpec) : List Issue :=
  (if s.settings.continueOnError then [⟨s.location, .flowContinuesOnError⟩] else []) ++
    s.tasks.flatMap FlowTask.issues

def build (s : FlowSpec) : Except Rejection Flow :=
  match s.spec.compile, s.issues with
  | .error (.fault f), _ => .error (.fault f)
  | .error (.issues found), issues => .error (.issues (found ++ issues))
  | .ok plan, [] => .ok ⟨plan, s.tasks.filterMap FlowTask.work?, s.settings, s.emitter⟩
  | .ok _, issues => .error (.issues issues)

end FlowSpec

end KeyFlow
