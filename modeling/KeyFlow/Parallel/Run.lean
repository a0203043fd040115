import KeyFlow.Lifecycle
import KeyFlow.Parallel

/-!
Running independent units. Each body is a job of its own. A task tells what became of it as soon as
it ends; of a slice or a map only failures are told at once, and the rest when all jobs are over.
-/

namespace KeyFlow

namespace WorkUnit

/-- What is told when a body has ended, and how its job ends. A part of a unit only tells of
failures. -/
def settle (label : String) (whole : Bool) : Ending Unit → List TaskEvent × Ending Completion
  | .returned () => (if whole then [.success, .done] else [], .returned .done)
  | .failed e =>
    (.error e.toTrouble :: (if whole then [.done] else []), .failed (.task label e.toTrouble))
  | .panicked p =>
    (.panic (p.within label) :: (if whole then [.done] else []), .failed (.panic (p.within label)))

variable (tell : Happening → Sinks → Sinks)

/-- A job of the unit `name`. -/
def job (name label : String) (whole : Bool) (dependencies : List Handle) (body : TaskBody Unit) :
    Job Sinks where
  name := some label
  dependencies
  body := body.alone label (fun n s => s.note n) fun e =>
    let (events, e) := settle label whole e
    Process.change (Lifecycle.tellAll tell (Lifecycle.ofTask name events)) (.done e)

/-- Takes in the jobs of a unit, the one of an end function after those of the elements. -/
def enqueue (s : Scheduler Sinks) : WorkUnit → Except EnqueueError (List Handle × Scheduler Sinks)
  | .task name body => s.enqueueAll [job tell name name true [] (body s.size)]
  | .fanOut name items finish =>
    let element (i : Nat) (body : UnitBody) :=
      job tell name s!"{name}[{i}]" false [] (body (s.size + i))
    match s.enqueueAll (items.mapIdx element), finish with
    | .error e, _ => .error e
    | .ok taken, none => .ok taken
    | .ok (handles, s), some body =>
      (s.enqueueAll [job tell name s!"{name} (end)" false handles (body s.size)]).map
        fun (last, s) => (handles ++ last, s)

/-- Takes in the jobs of all units; each unit gets the handles of its jobs. -/
def enqueueAll (s : Scheduler Sinks) :
    List WorkUnit → Except EnqueueError (List (WorkUnit × List Handle) × Scheduler Sinks)
  | [] => .ok ([], s)
  | u :: us =>
    match u.enqueue tell s with
    | .error e => .error e
    | .ok (handles, s) => (enqueueAll s us).map fun (rest, s) => ((u, handles) :: rest, s)

/-- What is told of a unit when all jobs are over, from the states of its own jobs in order. -/
def afterwards (u : WorkUnit) (states : List JobState) : List TaskEvent :=
  match states.findSome? (·.skipCause) with
  | some cause => if JobState.failed ∈ states then [] else [.skipped cause]
  | none => if u.isFanOut && states.all (· == .succeeded) then [.success, .done] else []

end WorkUnit

namespace Parallel

/-- The first failure, or all of them from a run that went on. -/
def result (p : Parallel) : List Error → Except Error Unit
  | [] => .ok ()
  | [e] => .error e
  | e :: es => .error (if p.settings.continueOnError then .multiple (e :: es) else e)

def tell (p : Parallel) (h : Happening) (sinks : Sinks) : Sinks := p.emitter.hear p.name h sinks

/-- The jobs of all units. -/
def jobs (p : Parallel) :
    Except EnqueueError (List (WorkUnit × List Handle) × Scheduler Sinks) :=
  WorkUnit.enqueueAll p.tell (Scheduler.create 0 p.settings) p.units

/-- What is told of the units when all jobs are over. -/
def closing (units : List (WorkUnit × List Handle)) (r : Report Sinks) : List Happening :=
  units.flatMap fun (u, handles) =>
    Lifecycle.ofTask u.name (u.afterwards (handles.filterMap r.stateOf))

/-- Runs every unit under a token. -/
def run (p : Parallel) (token : Token) (sinks : Sinks) : Course (FlowReport Unit Sinks) Sinks :=
  Lifecycle.around p.tell
    (fun sinks =>
      let sinks :=
        Lifecycle.tellAll p.tell (.schedulerInit :: p.units.map fun u => .taskInit u.name) sinks
      match p.jobs with
      | .error e => .reported { result := .error (.scheduler e.message), sinks }
      | .ok (units, s) =>
        (s.run (Lifecycle.conditions token p.emitter p.name id) sinks).map
          (fun r =>
            { result := p.result r.errors
              jobs := some r
              sinks := Lifecycle.tellAll p.tell (closing units r) r.shared })
          id)
    sinks

end Parallel

end KeyFlow
