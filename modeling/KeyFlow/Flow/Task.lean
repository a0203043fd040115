import KeyFlow.Flow
import KeyFlow.Flow.State
import KeyFlow.Lifecycle

/-!
The jobs of a flow. The job of a predicate runs its check and puts the verdict into the store. The
job of a task reads the verdict, runs the body and commits what it staged, or the values that stand
in if the body or the predicate went wrong.
-/

namespace KeyFlow

/-- What does not happen in a flow that was built. -/
inductive Breach where
  | noVerdict (task : String)
  | noPredicate (task : String)
  | noFallback (task : String)
  | store (e : StoreError)
  deriving DecidableEq, Repr

def Breach.toError : Breach → Error
  | .noVerdict task => .scheduler s!"predicate verdict for task {task} is missing"
  | .noPredicate task => .scheduler s!"task {task} has no predicate to evaluate"
  | .noFallback task => .scheduler s!"task {task} has no fallback values"
  | .store e => .scheduler e.message

/-- A task of a compiled flow, its position among the tasks, and its running part. -/
structure FlowUnit where
  index : Nat
  task : Task
  work : TaskWork

namespace FlowUnit

def breach (b : Breach) : JobBody FlowState := .done (.failed b.toError)

def finished : JobBody FlowState := .done (.returned .done)

/-- How a body went, once its outputs were asked for. -/
def taken (u : FlowUnit) (staging : Staging) : Ending Unit → Except Failure (List (Key × Value))
  | .returned () =>
    match staging.take with
    | .ok pairs => .ok pairs
    | .error k => .error (.error ⟨(ContextError.missingOutput u.task.name k).message, []⟩)
  | .failed e => .error (.error e.toTrouble)
  | .panicked p => .error (.ofPanic u.task.name p)

variable (tell : Happening → Sinks → Sinks) (u : FlowUnit)

def report (events : List TaskEvent) (next : JobBody FlowState) : JobBody FlowState :=
  Process.change
    (FlowState.onSinks (Lifecycle.tellAll tell (Lifecycle.ofTask u.task.name events))) next

/-- Commits pairs, reports, and ends well. `refused` is told if a slot refuses. -/
def commit (pairs : List (Key × Value)) (events refused : List TaskEvent) : JobBody FlowState :=
  Process.attempt (FlowState.put (pairs.map fun (k, v) => (k, .value v)))
    (fun e => u.report tell refused (breach (.store e)))
    (u.report tell events finished)

/-- Puts the values that stand in in the place of the outputs. -/
def recover (f : Failure) (values : List Value) (refused : List TaskEvent) : JobBody FlowState :=
  u.commit tell (u.task.outputs.zip values) [f.recovered, .done] refused

/-- Ends a task whose body has ended. It is told to be done even if its outputs cannot be replaced,
but not if they cannot be committed. -/
def settle : Except Failure (List (Key × Value)) → JobBody FlowState
  | .ok pairs => u.commit tell pairs [.success, .done] []
  | .error f =>
    match u.work.fallback with
    | some values => u.recover tell f values [.done]
    | none => u.report tell [f.event, .done] (.done (.failed (f.toError u.task.name)))

/-- Runs the body of a task. -/
def runBody : JobBody FlowState :=
  Process.change (FlowState.handle u.index)
    (u.work.body.interpret
      (TaskContext.answer ⟨u.task.name, u.task.inputs⟩ (fun s k => s.store.value? k) FlowState.note)
      (fun staging e => u.settle tell (u.taken staging e))
      ⟨u.task.outputs, []⟩)

/-- Goes on after the verdict of a predicate. -/
def follow : Verdict → JobBody FlowState
  | .run => u.runBody tell
  | .skip => .done (.returned .skip)
  | .faulted f =>
    Process.change (FlowState.handle u.index)
      (match u.work.fallback with
        | some values => u.recover tell f values []
        | none => breach (.noFallback u.task.name))

/-- The work of the node of a task. -/
def taskBody : JobBody FlowState :=
  match u.task.gate with
  | none => u.runBody tell
  | some gate =>
    Process.look fun s =>
      match s.store.verdict? gate.sentinel with
      | some v => u.follow tell v
      | none => breach (.noVerdict u.task.name)

/-- What a check that has ended says; a failure that no values stand in for is none. -/
def verdict (e : Ending Bool) : Except Failure Verdict :=
  let fault (f : Failure) := if u.work.fallback.isSome then .ok (.faulted f) else .error f
  match e with
  | .returned true => .ok .run
  | .returned false => .ok .skip
  | .failed e => fault (.error e.toTrouble)
  | .panicked p => fault (.ofPanic u.task.name p)

/-- Ends a predicate whose check has ended. -/
def conclude (gate : Gate) : Except Failure Verdict → JobBody FlowState
  | .ok v =>
    Process.attempt (FlowState.put [(gate.sentinel, .verdict v)]) (fun e => breach (.store e))
      finished
  | .error f =>
    u.report tell [f.event]
      (.done (.failed ((f.inContext "predicate failed").toError u.task.name)))

/-- The work of the node of a predicate. -/
def predicateBody : JobBody FlowState :=
  match u.task.gate, u.work.check with
  | some gate, some check =>
    check.interpret
      (TaskContext.answer ⟨u.task.name, gate.inputs⟩ (fun s k => s.store.value? k) FlowState.note)
      (fun _ e => u.conclude tell gate (u.verdict e))
      ⟨[], []⟩
  | _, _ => breach (.noPredicate u.task.name)

end FlowUnit

end KeyFlow
