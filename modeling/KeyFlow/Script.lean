import KeyFlow.Emitter
import KeyFlow.Run.Progress
import KeyFlow.TaskContext

/-!
Scripts: bodies written as lists of actions, for rehearsing runs. A scripted body writes in the
journal where it starts and where it ends without an error.
-/

namespace KeyFlow

inductive Action where
  | input (key : Key) (raw : Bool)
  | provide (key : Key) (value : Value)
  /-- Stages the sum of some inputs and a number. -/
  | sum (target : Key) (keys : List Key) (add : Int)
  /-- Ends the body with the answer whether an input reaches the least value. -/
  | test (key : Key) (least : Int)
  | name
  | check
  | sleep (millis : Nat)
  | awaitCancel
  | cancelRun
  | cancelOwn
  | fail (e : Error)
  | panic (payload : Payload)
  | result (d : Datum)

/-- An action, and whether the body goes on after an error in it. -/
structure Step where
  action : Action
  tries : Bool := false

namespace Script

/-- What a scripted body ends with. -/
abbrev ScriptBody : Type := TaskBody Datum

def write (n : Note) (next : ScriptBody) : ScriptBody := .call (.note n) fun _ => next

/-- Notes that the body is at its end, and ends it. -/
def finish (label : String) (d : Datum) : ScriptBody :=
  write (.ended label) (.done (.returned d))

/-- Typed keys are read as their types, all others as they come. -/
def isTyped : Key → Bool
  | .typed _ => true
  | _ => false

/-- Reads an integer input. -/
def readInt (k : Key) (onError : Error → ScriptBody) (next : Int → ScriptBody) : ScriptBody :=
  .call (.input k (isTyped k)) fun (reply : Except ContextError Value) =>
    match reply with
    | .error e => onError e.toError
    | .ok v =>
      match v.int? with
      | some n => next n
      | none => onError (.other ⟨s!"value stored for {k.text} is not an integer", []⟩)

/-- Adds up integer inputs in order. -/
def addUp (onError : Error → ScriptBody) (next : Int → ScriptBody) : List Key → Int → ScriptBody
  | [], total => next total
  | k :: ks, total => readInt k onError fun n => addUp onError next ks (total + n)

def stage (k : Key) (v : Value) (onError : Error → ScriptBody) (next : ScriptBody) : ScriptBody :=
  .call (.provide k v) fun (reply : Except ContextError Unit) =>
    match reply with
    | .error e => onError e.toError
    | .ok () => next

/-- Takes one action and goes on with `next`. -/
def perform (label : String) (onError : Error → ScriptBody) (next : ScriptBody) :
    Action → ScriptBody
  | .input k raw =>
    .call (.input k (isTyped k && !raw)) fun (reply : Except ContextError Value) =>
      match reply with
      | .error e => onError e.toError
      | .ok v => write (.input label k v) next
  | .provide k v => stage k v onError next
  | .sum target keys add =>
    addUp onError (fun total => stage target (.under target (.int total)) onError next) keys add
  | .test k least => readInt k onError fun n => finish label (.bool (least ≤ n))
  | .name => .call .taskName fun (task : String) => write (.task label task) next
  | .check => .isCancelled fun b => write (.cancelled label b) next
  | .sleep millis => .sleep millis fun t => write (.slept label t) next
  | .awaitCancel => .awaitCancel fun t => write (.woken label t) next
  | .cancelRun => .cancelRun next
  | .cancelOwn => .cancelOwn next
  | .fail e => onError e
  | .panic payload => .done (.panicked (.ofPayload payload))
  | .result d => finish label d

def steps (label : String) : List Step → ScriptBody
  | [] => finish label .null
  | s :: rest =>
    let next := steps label rest
    perform label
      (fun e => if s.tries then write (.caught label e.toTrouble) next else .done (.failed e))
      next s.action

/-- The body that a script stands for; a job of an engine tells its index as well. -/
def body (label : String) (job : Option Nat) (script : List Step) : ScriptBody :=
  write (.start label job) (steps label script)

/-- A script as the body of a task, whose result does not matter. -/
def taskBody (label : String) (job : Option Nat) (script : List Step) : TaskBody Unit :=
  (body label job script).map (Ending.map fun _ => ())

/-- A script as the body of a predicate: it holds unless the result is the truth value `false`. -/
def predicateBody (label : String) (script : List Step) : TaskBody Bool :=
  (body label none script).map (Ending.map fun d => match d with
    | .bool b => b
    | _ => true)

/-- A job declines if it may and its script ends with the text `skip`. -/
def completion (mayDecline : Bool) : Datum → Completion
  | .text "skip" => if mayDecline then .skip else .done
  | _ => .done

/-- A scripted job that stands by itself. -/
def job (label : String) (index : Nat) (mayDecline : Bool) (script : List Step) : JobBody Sinks :=
  TaskBody.alone label (fun n s => s.note n)
    (fun
      | .returned d => .done (.returned (completion mayDecline d))
      | .failed e => .done (.failed e)
      | .panicked p => .done (.panicked p))
    (body label (some index) script)

end Script

end KeyFlow
