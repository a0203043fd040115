import KeyFlow.Flow

/-!
The builder of flows. It keeps two lists side by side: the declarations that the compiler sees, and
for each task what the run needs of it. A task without a body gets no place in the table of the
flow, and the places behind it move up.
-/

namespace KeyFlow

/-- What a builder keeps of a task for the run. -/
structure TaskParts where
  body : Option (TaskBody Unit)
  check : Option (TaskBody Bool)
  /-- Where a predicate without a check was declared. -/
  unchecked : Option Location
  fallback : Option (List Value)

/-- The part of a task that the compiler does not see. -/
def FlowTask.parts (t : FlowTask) : TaskParts where
  body := t.body
  check := t.predicate.bind (·.check)
  unchecked := t.predicate.bind fun p => if p.check.isNone then some p.location else none
  fallback := t.fallback.map fun values => values.map (·.2)

/-- The running parts that were laid out so far, and what was wrong with those before them. -/
structure WorkTable where
  works : List TaskWork
  issues : List Issue

/-- Lays out the parts of one more task. -/
def WorkTable.add (table : WorkTable) : Location × TaskParts → WorkTable
  | (location, parts) =>
    let issues := match parts.unchecked with
      | some placed => table.issues ++ [⟨placed, .predicateWithoutBody⟩]
      | none => table.issues
    match parts.body with
    | none => { table with issues := issues ++ [⟨location, .taskWithoutBody⟩] }
    | some body => ⟨table.works ++ [⟨body, parts.check, parts.fallback⟩], issues⟩

structure FlowBuilder where
  spec : Spec
  tasks : List (Location × TaskParts)
  settings : RunSettings
  emitter : Emitter

namespace FlowBuilder

/-- A call on a builder. -/
inductive Call where
  | input (k : Key) (location : Location)
  | output (k : Key) (location : Location)
  | task (t : FlowTask)
  | config (settings : RunSettings)
  /-- Zero lifts the limit. -/
  | concurrency (limit : Nat)
  | emitter (e : Emitter)

def start (name : String) (location : Location) : FlowBuilder where
  spec := { name, location, inputs := [], outputs := [], tasks := [] }
  tasks := []
  settings := {}
  emitter := .silent

def after (b : FlowBuilder) : Call → FlowBuilder
  | .input k location => { b with spec.inputs := b.spec.inputs ++ [⟨k, location⟩] }
  | .output k location => { b with spec.outputs := b.spec.outputs ++ [⟨k, location⟩] }
  | .task t =>
    { b with
      spec.tasks := b.spec.tasks ++ [t.decl]
      tasks := b.tasks ++ [(t.location, t.parts)] }
  | .config settings => { b with settings }
  | .concurrency limit => { b with settings := b.settings.withLimit limit }
  | .emitter emitter => { b with emitter }

/-- The builder after some calls. -/
def of (name : String) (location : Location) (calls : List Call) : FlowBuilder :=
  calls.foldl after (start name location)

/-- A flow stops at its first failure. -/
def optionIssues (b : FlowBuilder) : List Issue :=
  if b.settings.continueOnError then [⟨b.spec.location, .flowContinuesOnError⟩] else []

/-- The table of a flow, and all that is wrong apart from the signatures. -/
def table (b : FlowBuilder) : WorkTable :=
  b.tasks.foldl WorkTable.add ⟨[], b.optionIssues⟩

def build (b : FlowBuilder) : Except Rejection Flow :=
  match b.spec.compile with
  | .error (.fault f) => .error (.fault f)
  | .error (.issues found) => .error (.issues (found ++ b.table.issues))
  | .ok plan =>
    if b.table.issues.isEmpty then .ok ⟨plan, b.table.works, b.settings, b.emitter⟩
    else .error (.issues b.table.issues)

end FlowBuilder

end KeyFlow
