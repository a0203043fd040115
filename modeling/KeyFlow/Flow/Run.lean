import KeyFlow.Flow.Task

/-!
Running a flow. Every run has a store and a scheduler of its own. There is one job for each node,
and providers are taken in before those they provide for, so that each job finds the handles of the
jobs it waits for.
-/

namespace KeyFlow

/-- Why the nodes of a flow are not all taken in. -/
inductive Setback where
  | refused (e : EnqueueError)
  | fault (f : Fault)
  deriving DecidableEq, Repr

namespace Flow

def name (f : Flow) : String := f.plan.graph.name

def tell (f : Flow) (h : Happening) (sinks : Sinks) : Sinks := f.emitter.hear f.name h sinks

/-- A task with its running part. -/
def unit? (f : Flow) (index : Nat) : Option FlowUnit :=
  match f.plan.graph.tasks[index]? with
  | none => none
  | some task => f.works[task.ordinal]?.map fun work => ⟨index, task, work⟩

/-- The job of a node, before it has dependencies. -/
def job? (f : Flow) (id : NodeId) : Option (Job FlowState) :=
  (f.plan.graph.nodes[id]?).bind fun node =>
    match node.kind with
    | .task index =>
      (f.unit? index).map fun u => { name := some u.task.name, body := u.taskBody f.tell }
    | .predicate index =>
      (f.unit? index).map fun u =>
        { name := some s!"{u.task.name} (predicate)", body := u.predicateBody f.tell }

/-- The nodes taken in so far, with their handles. -/
abbrev Handles : Type := List (NodeId × Handle)

/-- Takes nodes in one after another. -/
def enqueue (f : Flow) :
    List NodeId → Handles → Scheduler FlowState →
      Except Setback (Handles × Scheduler FlowState)
  | [], handles, s => .ok (handles, s)
  | id :: ids, handles, s =>
    match f.job? id with
    | none => .error (.fault (.missingNode id))
    | some job =>
      let dependencies := (f.plan.graph.dependencyNodes id).filterMap (handles.lookup ·)
      match s.enqueue { job with dependencies } with
      | (.error e, _) => .error (.refused e)
      | (.ok h, s) => f.enqueue ids (handles ++ [(id, h)]) s

/-- The jobs of all nodes. -/
def jobs (f : Flow) : Except Setback (Handles × Scheduler FlowState) :=
  f.enqueue f.plan.enqueueOrder [] (Scheduler.create 0 f.settings)

/-- What is told when all jobs are over: the tasks that were skipped and told nothing themselves. -/
def closing (f : Flow) (handles : Handles) (r : Report FlowState) : List Happening :=
  (f.plan.graph.tasks.zipIdx.filter fun (_, i) => i ∉ r.shared.handled).filterMap fun (task, _) =>
    (((handles.lookup task.node).bind r.stateOf).bind (·.skipCause)).map fun cause =>
      .task task.name (.skipped cause)

/-- Runs the jobs of a flow whose inputs are in the store. -/
def runJobs (f : Flow) (token : Token) (store : Store Held) (sinks : Sinks) :
    Course (FlowReport FlowResults FlowState) Sinks :=
  let sinks :=
    Lifecycle.tellAll f.tell
      ((f.plan.graph.tasks.map fun t => .taskInit t.name) ++ [.schedulerInit]) sinks
  match f.jobs with
  | .error (.refused e) => .reported { result := .error (.scheduler e.message), sinks }
  | .error (.fault e) => .fault e
  | .ok (handles, s) =>
    (s.run (Lifecycle.conditions token f.emitter f.name FlowState.onSinks) { store, sinks }).map
      (fun r =>
        { result := r.result.map fun () => ⟨r.shared.store, f.plan.graph.outputs.map (·.key)⟩
          jobs := some r
          sinks := Lifecycle.tellAll f.tell (f.closing handles r) r.shared.sinks })
      (·.sinks)

/-- Runs the flow once on the given inputs. -/
def run (f : Flow) (inputs : List (Key × Value)) (token : Token) (sinks : Sinks) :
    Course (FlowReport FlowResults FlowState) Sinks :=
  Lifecycle.around f.tell
    (fun sinks =>
      match Store.seeded f.plan inputs with
      | .error e => .reported { result := .error e.toError, sinks }
      | .ok store => f.runJobs token store sinks)
    sinks

end Flow

end KeyFlow
