import KeyFlow.Error
import KeyFlow.Jobs.State
import KeyFlow.Logging.Level
import KeyFlow.Value

/-!
What there is to tell about a run: notes that bodies write, and what happens to flows, tasks and
schedulers.
-/

namespace KeyFlow

/-- A line that the body with this label writes about itself. -/
inductive Note where
  | start (label : String) (job : Option Nat)
  | ended (label : String)
  | input (label : String) (key : Key) (value : Value)
  | task (label : String) (name : String)
  | slept (label : String) (clock : Nat)
  | woken (label : String) (clock : Nat)
  | cancelled (label : String) (answer : Bool)
  | caught (label : String) (error : Trouble)

/-- What becomes of a task. -/
inductive TaskEvent where
  | success
  | error (e : Trouble)
  | errorRecovered (e : Trouble)
  | skipped (cause : SkipCause)
  | panic (p : Panic)
  | panicRecovered (p : Panic)
  /-- The body of the task ran. -/
  | done

/-- What happens in the life of a flow. -/
inductive Happening where
  | flowInit
  | flowSuccess
  | flowError (e : Error)
  | flowDone
  | taskInit (task : String)
  /-- The states of the scheduler will be sampled. -/
  | schedulerInit
  | task (task : String) (event : TaskEvent)
  /-- The state of the scheduler, sampled at this time. -/
  | state (clock : Nat) (snapshot : Snapshot)

inductive LogField where
  | text (s : String)
  | number (n : Nat)

structure LogRecord where
  level : Level
  message : String
  fields : List (String × LogField)

/-- An entry in the journal of a run. -/
inductive Event where
  | note (n : Note)
  /-- The recorder of this name heard what happened to the flow. -/
  | heard (recorder flow : String) (h : Happening)
  | logged (r : LogRecord)

end KeyFlow
