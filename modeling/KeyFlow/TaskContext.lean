import KeyFlow.Body
import KeyFlow.Event
import KeyFlow.Staging

/-!
What a task's body sees of its flow: its declared inputs, a place for its declared outputs, its own
name and a journal to write in. A body outside a flow sees a context that declares nothing.
-/

namespace KeyFlow

/-- What a body may ask of its context. -/
inductive Request where
  | note (n : Note)
  /-- The value of an input, as the type of its key if it is wanted typed. -/
  | input (key : Key) (typed : Bool)
  | provide (key : Key) (value : Value)
  | taskName

inductive ContextError where
  | undeclaredInput (task : String) (key : Key)
  | unavailable (task : String) (key : Key)
  | differentType (key : Key)
  | undeclaredOutput (task : String) (key : Key)
  | missingOutput (task : String) (key : Key)
  deriving DecidableEq, Repr

namespace ContextError

def message : ContextError → String
  | .undeclaredInput task k => s!"task {task} did not declare input {k.text}"
  | .unavailable task k => s!"input {k.text} is not available to task {task}"
  | .differentType k => s!"value stored for {k.text} has a different type"
  | .undeclaredOutput task k => s!"task {task} did not declare output {k.text}"
  | .missingOutput task k => s!"task {task} did not provide output {k.text}"

def toError (e : ContextError) : Error := .other ⟨e.message, []⟩

end ContextError

@[reducible] def Reply : Request → Type
  | .note _ => Unit
  | .input .. => Except ContextError Value
  | .provide .. => Except ContextError Unit
  | .taskName => String

/-- The body of a task or predicate, with what it returns. -/
abbrev TaskBody (α : Type) : Type := Body Request Reply (Ending α)

structure TaskContext where
  task : String
  inputs : List Key := []

namespace TaskContext

variable {σ : Type}

/-- Reads a declared input from what is there. -/
def read (c : TaskContext) (lookup : Key → Option Value) (k : Key) (typed : Bool) :
    Except ContextError Value :=
  if k ∈ c.inputs then
    match lookup k with
    | none => .error (.unavailable c.task k)
    | some v => if typed && !v.fits k then .error (.differentType k) else .ok v
  else .error (.undeclaredInput c.task k)

/-- Answers a body that has staged `own`. -/
def answer (c : TaskContext) (lookup : σ → Key → Option Value) (write : Note → σ → σ)
    (own : Staging) : (r : Request) → σ → Reply r × Staging × σ
  | .note n, s => ((), own, write n s)
  | .input k typed, s => (c.read (lookup s) k typed, own, s)
  | .provide k v, s =>
    match own.provide k v with
    | some own => (.ok (), own, s)
    | none => (.error (.undeclaredOutput c.task k), own, s)
  | .taskName, s => (c.task, own, s)

end TaskContext

/-- A body outside a flow, which can only write in the journal of its run. -/
def TaskBody.alone {α β σ : Type} (label : String) (write : Note → σ → σ)
    (k : Ending α → Process σ β) (body : TaskBody α) : Process σ β :=
  body.interpret (TaskContext.answer ⟨label, []⟩ (fun _ _ => none) write) (fun _ => k) ⟨[], []⟩

end KeyFlow
