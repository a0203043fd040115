import KeyFlow.Flow.Run

/-!
The sequential evaluation of a flow. The nodes of its plan are evaluated one by one in their order,
with neither a scheduler nor a clock: a node that waits for one without success is skipped, and the
others are worth what their body makes of what is there.
-/

namespace KeyFlow

/-- What came of a node. -/
inductive Fate where
  | succeeded
  | declined
  | failed
  | skipped
  deriving DecidableEq, Repr

/-- What a key stands for when its node is through: a value, or the ruling of a predicate. -/
inductive Mark where
  | value (v : Value)
  | run
  | skip
  /-- The predicate went wrong, and its task has values to stand in. -/
  | fault

/-- What a task reads there. -/
def Mark.read : Mark → Value
  | .value v => v
  | .run | .skip | .fault => .verdict

/-- Answers a request of a body that has staged `own` from the values that are there. -/
def TaskContext.reply (c : TaskContext) (values : Key → Option Value) (own : Staging)
    (request : Request) : Reply request × Staging :=
  let answered := c.answer (fun _ : Unit => values) (fun _ => id) own request ()
  (answered.1, answered.2.1)

namespace Body

variable {α : Type}

/-- Evaluates a body in a context. Its sleeps take no time; a body that cancels its run, or waits
for a cancellation that it did not ask for itself, comes to nothing. -/
def evaluate (c : TaskContext) (values : Key → Option Value) :
    (cancelled : Bool) → Staging → TaskBody α → Option (Staging × Ending α)
  | _, own, .done e => some (own, e)
  | cancelled, own, .call request next =>
    evaluate c values cancelled (c.reply values own request).2
      (next (c.reply values own request).1)
  | cancelled, own, .sleep _ next => evaluate c values cancelled own (next 0)
  | cancelled, own, .awaitCancel next =>
    if cancelled then evaluate c values cancelled own (next 0) else none
  | cancelled, own, .isCancelled next => evaluate c values cancelled own (next cancelled)
  | _, _, .cancelRun _ => none
  | _, own, .cancelOwn next => evaluate c values true own next

end Body

/-- The outputs of a body that returned with all of them. -/
def Staging.given (own : Staging) : Ending Unit → Option (List (Key × Value))
  | .returned () => own.take.toOption
  | _ => none

/-- What a check said, unless it went wrong. -/
def Ending.truth {α : Type} : Ending α → Option α
  | .returned a => some a
  | _ => none

/-- The outputs that the body of a task makes of the values of its inputs. -/
def TaskBody.outputs? (c : TaskContext) (outputs : List Key) (values : Key → Option Value)
    (body : TaskBody Unit) : Option (List (Key × Value)) :=
  (body.evaluate c values false ⟨outputs, []⟩).bind fun (own, e) => own.given e

/-- What a check makes of the values of its inputs. -/
def TaskBody.truth? (c : TaskContext) (values : Key → Option Value) (check : TaskBody Bool) :
    Option Bool :=
  (check.evaluate c values false ⟨[], []⟩).bind fun (_, e) => e.truth

/-- What a node came to, and what it left behind. -/
abbrev Result : Type := Fate × List (Key × Mark)

/-- Values as marks. -/
def marked (pairs : List (Key × Value)) : List (Key × Mark) := pairs.map fun (k, v) => (k, .value v)

namespace FlowUnit

/-- A task whose body went wrong is worth the values that stand in, if it has any. -/
def settled (u : FlowUnit) : Option (List (Key × Value)) → Result
  | some pairs => (.succeeded, marked pairs)
  | none =>
    match u.work.fallback with
    | some values => (.succeeded, marked (u.task.outputs.zip values))
    | none => (.failed, [])

def evaluateBody (u : FlowUnit) (marks : Key → Option Mark) : Result :=
  u.settled (u.work.body.outputs? ⟨u.task.name, u.task.inputs⟩ u.task.outputs
    fun k => (marks k).map Mark.read)

def evaluateTask (u : FlowUnit) (marks : Key → Option Mark) : Result :=
  match u.task.gate with
  | none => u.evaluateBody marks
  | some gate =>
    match marks gate.sentinel with
    | some .run => u.evaluateBody marks
    | some .skip => (.declined, [])
    | some .fault => u.settled none
    | _ => (.failed, [])

def evaluatePredicate (u : FlowUnit) (marks : Key → Option Mark) : Result :=
  match u.task.gate, u.work.check with
  | some gate, some check =>
    match check.truth? ⟨u.task.name, gate.inputs⟩ fun k => (marks k).map Mark.read with
    | some true => (.succeeded, [(gate.sentinel, .run)])
    | some false => (.succeeded, [(gate.sentinel, .skip)])
    | none =>
      if u.work.fallback.isSome then (.succeeded, [(gate.sentinel, .fault)]) else (.failed, [])
  | _, _ => (.failed, [])

end FlowUnit

/-- How far an evaluation came. -/
structure Evaluation where
  /-- Inputs of the flow, then what its nodes left behind. -/
  marks : List (Key × Mark)
  fates : List (NodeId × Fate) := []

namespace Evaluation

def fateOf (e : Evaluation) (id : NodeId) : Option Fate := e.fates.lookup id

def mark? (e : Evaluation) (k : Key) : Option Mark := e.marks.lookup k

def value? (e : Evaluation) (k : Key) : Option Value := (e.mark? k).map Mark.read

def add (e : Evaluation) (id : NodeId) (r : Result) : Evaluation :=
  ⟨e.marks ++ r.2, e.fates ++ [(id, r.1)]⟩

end Evaluation

namespace Flow

/-- What a node is worth when nothing keeps it from being evaluated. -/
def attempt (f : Flow) (marks : Key → Option Mark) (id : NodeId) : Result :=
  match (f.plan.graph.nodes[id]?).map Node.kind with
  | some (.task index) => ((f.unit? index).map (·.evaluateTask marks)).getD (.skipped, [])
  | some (.predicate index) =>
    ((f.unit? index).map (·.evaluatePredicate marks)).getD (.skipped, [])
  | none => (.skipped, [])

def resultOf (f : Flow) (e : Evaluation) (id : NodeId) : Result :=
  if ∀ d ∈ f.plan.graph.dependencyNodes id, e.fateOf d = some .succeeded then
    f.attempt e.mark? id
  else (.skipped, [])

def evaluateNode (f : Flow) (e : Evaluation) (id : NodeId) : Evaluation :=
  e.add id (f.resultOf e id)

def evaluateAll (f : Flow) (inputs : List (Key × Value)) (ids : List NodeId) : Evaluation :=
  ids.foldl f.evaluateNode ⟨marked inputs, []⟩

/-- Evaluates all nodes of the plan in their order. -/
def evaluate (f : Flow) (inputs : List (Key × Value)) : Evaluation :=
  f.evaluateAll inputs f.plan.order

/-- Evaluates the nodes that have jobs. -/
def evaluateJobs (f : Flow) (inputs : List (Key × Value)) : Evaluation :=
  f.evaluateAll inputs f.plan.enqueueOrder

end Flow

end KeyFlow
