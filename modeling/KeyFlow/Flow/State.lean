import KeyFlow.Emitter
import KeyFlow.Store
import KeyFlow.TaskContext

/-!
What the jobs of one flow run share: the store of values and verdicts, which tasks have told their
outcome, and the sinks of the emitter. A run starts from the inputs that it is given, which are one
value for each declared input.
-/

namespace KeyFlow

/-- How the body of a task or of a predicate went wrong. -/
inductive Failure where
  | error (e : Trouble)
  | panic (p : Panic)
  deriving DecidableEq, Repr

/-- What the predicate of a task came to. -/
inductive Verdict where
  | run
  | skip
  /-- The predicate went wrong, and its task has values to stand in. -/
  | faulted (f : Failure)
  deriving DecidableEq, Repr

/-- What a slot of the store holds. -/
inductive Held where
  | value (v : Value)
  | verdict (v : Verdict)

/-- What a task reads there. Of a verdict it learns no more than the type. -/
def Held.read : Held → Value
  | .value v => v
  | .verdict _ => .verdict

namespace Failure

/-- A panic is told with the task that it happened in. -/
def ofPanic (task : String) (p : Panic) : Failure := .panic (p.within task)

def event : Failure → TaskEvent
  | .error e => .error e
  | .panic p => .panic p

def recovered : Failure → TaskEvent
  | .error e => .errorRecovered e
  | .panic p => .panicRecovered p

/-- The error of the task that failed. -/
def toError (task : String) : Failure → Error
  | .error e => .task task e
  | .panic p => .panic p

/-- The failure as it is seen from further out. -/
def inContext (message : String) : Failure → Failure
  | .error e => .error (e.inContext message)
  | .panic p => .panic p

end Failure

/-- Why the inputs of a run do not fit the flow. -/
inductive InputError where
  | undeclared (key : Key) (flow : String)
  | repeated (key : Key)
  | missing (key : Key)
  | refused (e : StoreError)
  deriving DecidableEq, Repr

def InputError.toError : InputError → Error
  | .undeclared k flow => .inputs s!"{k.text} is not a declared input of flow {flow}"
  | .repeated k => .inputs s!"{k.text} supplied more than once"
  | .missing k => .inputs s!"missing value for {k.text}"
  | .refused e => .scheduler e.message

namespace Store

def value? (s : Store Held) (k : Key) : Option Value := (s.get? k).map Held.read

def verdict? (s : Store Held) (k : Key) : Option Verdict :=
  match s.get? k with
  | some (.verdict v) => some v
  | _ => none

/-- Puts the given inputs into their slots, up to the first that does not fit. -/
def supply (p : Plan) : Store Held → List (Key × Value) → Except InputError (Store Held)
  | s, [] => .ok s
  | s, (k, v) :: rest =>
    if !p.graph.isFlowInput k then .error (.undeclared k p.graph.name)
    else if s.contains k then .error (.repeated k)
    else match s.set k (.value v) with
      | .error e => .error (.refused e)
      | .ok s => s.supply p rest

/-- The store at the start of a run. -/
def seeded (p : Plan) (inputs : List (Key × Value)) : Except InputError (Store Held) :=
  match (forPlan p).supply p inputs with
  | .error e => .error e
  | .ok s =>
    match p.graph.inputs.find? fun d => !s.contains d.key with
    | some d => .error (.missing d.key)
    | none => .ok s

end Store

structure FlowState where
  store : Store Held
  /-- Tasks that told their outcome. -/
  handled : List Nat := []
  sinks : Sinks

namespace FlowState

/-- Changes the sinks. -/
def onSinks (f : Sinks → Sinks) (s : FlowState) : FlowState := { s with sinks := f s.sinks }

def note (n : Note) (s : FlowState) : FlowState := s.onSinks (·.note n)

/-- From here on the task with this index tells its outcome by itself. -/
def handle (task : Nat) (s : FlowState) : FlowState := { s with handled := task :: s.handled }

/-- Puts things into their slots, up to the first slot that refuses. -/
def put (pairs : List (Key × Held)) (s : FlowState) : Except StoreError Unit × FlowState :=
  ((s.store.setAll pairs).1, { s with store := (s.store.setAll pairs).2 })

end FlowState

/-- The values of the outputs after a run that succeeded. An output is absent if its task was
skipped. -/
structure FlowResults where
  store : Store Held
  outputs : List Key

namespace FlowResults

def get? (r : FlowResults) (k : Key) : Option Value :=
  if k ∈ r.outputs then r.store.value? k else none

/-- The value of an output as the type of its key. -/
def getTyped? (r : FlowResults) (k : Key) : Option Value := (r.get? k).filter (·.fits k)

def contains (r : FlowResults) (k : Key) : Bool := k ∈ r.outputs && r.store.contains k

end FlowResults

end KeyFlow
