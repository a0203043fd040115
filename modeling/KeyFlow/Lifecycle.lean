import KeyFlow.Emitter
import KeyFlow.Run.Scheduler

/-!
The life of a flow as its emitter is told it: it begins, it succeeds or fails, and it is done. What
happens in between is up to the flow.
-/

namespace KeyFlow

/-- What came of a flow whose jobs share `σ`. -/
structure FlowReport (α σ : Type) where
  result : Except Error α
  /-- The report of its jobs, if they were run. -/
  jobs : Option (Report σ) := none
  sinks : Sinks

namespace Lifecycle

variable {α σ : Type}

/-- How a flow ended, as it is told. -/
def verdict : Except Error α → Happening
  | .ok _ => .flowSuccess
  | .error e => .flowError e

/-- Tells the beginning and the end of what a flow does. -/
def around (tell : Happening → Sinks → Sinks) (inner : Sinks → Course (FlowReport α σ) Sinks)
    (sinks : Sinks) : Course (FlowReport α σ) Sinks :=
  (inner (tell .flowInit sinks)).map
    (fun r => { r with sinks := tell .flowDone (tell (verdict r.result) r.sinks) }) id

/-- Tells several things in order. -/
def tellAll (tell : Happening → Sinks → Sinks) (hs : List Happening) (sinks : Sinks) : Sinks :=
  hs.foldl (fun s h => tell h s) sinks

/-- What is told of one task. -/
def ofTask (task : String) (events : List TaskEvent) : List Happening := events.map (.task task)

/-- A run under a token that tells the states of its scheduler if the emitter samples them; `lift`
changes the sinks in what the jobs share. -/
def conditions (token : Token) (emitter : Emitter) (flow : String)
    (lift : (Sinks → Sinks) → σ → σ) : Conditions σ where
  toToken := token
  observe :=
    if emitter.samples then
      some fun clock snapshot => lift (emitter.hear flow (.state clock snapshot))
    else none

end Lifecycle

end KeyFlow
