import KeyFlow.Event

/-!
Emitters are told what happens in a run. They record it, log it, write it down as text, pass it on
or drop it, and have no way to answer.
-/

namespace KeyFlow

/-- What happened, as lines of text, with the lines of each task apart and the states sampled. -/
structure Transcript where
  lines : List String := []
  taskLines : List (String × String) := []
  states : List Snapshot := []

namespace Transcript

def has (t : Transcript) (line : String) : Bool := line ∈ t.lines

/-- The lines of one task, without its name. -/
def linesOf (t : Transcript) (task : String) : List String :=
  (t.taskLines.filter (·.1 == task)).map (·.2)

end Transcript

/-- Where emitters write. -/
structure Sinks where
  events : List Event := []
  transcripts : List Transcript := []

inductive Emitter where
  | silent
  | log
  | recorder (name : String) (samples : Bool)
  /-- Writes the transcript with this number. -/
  | transcriber (number : Nat) (samples : Bool)
  /-- Passes everything on to each emitter in order. -/
  | stack (emitters : List Emitter)

namespace TaskEvent

/-- The event as one word. -/
def word : TaskEvent → String
  | .success => "task_success"
  | .error _ => "task_error"
  | .errorRecovered _ => "task_error_recovered"
  | .skipped _ => "task_skipped"
  | .panic _ => "task_panic"
  | .panicRecovered _ => "task_panic_recovered"
  | .done => "task_done"

/-- What a transcript says beside the word. -/
def detail : TaskEvent → String
  | .skipped cause => " " ++ cause.text
  | _ => ""

end TaskEvent

namespace Transcript

def hear (flow : String) (t : Transcript) : Happening → Transcript
  | .flowInit => { t with lines := t.lines ++ ["flow_init " ++ flow] }
  | .flowSuccess => { t with lines := t.lines ++ ["flow_success " ++ flow] }
  | .flowError _ => { t with lines := t.lines ++ ["flow_error " ++ flow] }
  | .flowDone => { t with lines := t.lines ++ ["flow_done " ++ flow] }
  | .taskInit _ | .schedulerInit => t
  | .task name event =>
    { t with
      lines := t.lines ++ [event.word ++ " " ++ name ++ event.detail]
      taskLines := t.taskLines ++ [(name, event.word ++ event.detail)] }
  | .state _ snapshot => { t with states := t.states ++ [snapshot] }

end Transcript

namespace LogRecord

def optionText : Option Nat → String
  | none => "None"
  | some n => s!"Some({n})"

def ofTask (flow task : String) : TaskEvent → LogRecord
  | .success => ⟨.debug, "task succeeded", [("flow", .text flow), ("task", .text task)]⟩
  | .error e =>
    ⟨.error, "task failed",
      [("flow", .text flow), ("task", .text task), ("error", .text e.message)]⟩
  | .errorRecovered e =>
    ⟨.warn, "task error recovered",
      [("flow", .text flow), ("task", .text task), ("error", .text e.message)]⟩
  | .skipped cause =>
    ⟨.debug, "task skipped",
      [("flow", .text flow), ("task", .text task), ("cause", .text cause.text)]⟩
  | .panic p =>
    ⟨.error, "task panicked",
      [("flow", .text flow), ("task", .text task), ("panic", .text p.message)]⟩
  | .panicRecovered p =>
    ⟨.warn, "task panic recovered",
      [("flow", .text flow), ("task", .text task), ("panic", .text p.message)]⟩
  | .done => ⟨.debug, "task done", [("flow", .text flow), ("task", .text task)]⟩

/-- The record of what happened; beginnings are not logged. -/
def ofHappening (flow : String) : Happening → Option LogRecord
  | .flowInit | .taskInit _ | .schedulerInit => none
  | .flowSuccess => some ⟨.debug, "flow succeeded", [("flow", .text flow)]⟩
  | .flowError e =>
    some ⟨.error, "flow failed", [("flow", .text flow), ("error", .text e.message)]⟩
  | .flowDone => some ⟨.debug, "flow done", [("flow", .text flow)]⟩
  | .task name event => some (ofTask flow name event)
  | .state _ s =>
    some ⟨.debug, "scheduler state",
      [("flow", .text flow), ("pending", .number s.pending), ("ready", .number s.ready),
        ("waiting", .number s.waiting), ("idle_workers", .text (optionText s.idleWorkers)),
        ("concurrency", .text (optionText s.limit))]⟩

end LogRecord

namespace Sinks

def write (s : Sinks) (e : Event) : Sinks := { s with events := s.events ++ [e] }

def note (s : Sinks) (n : Note) : Sinks := s.write (.note n)

def transcribe (s : Sinks) (number : Nat) (flow : String) (h : Happening) : Sinks :=
  { s with transcripts := s.transcripts.modify number fun t => t.hear flow h }

end Sinks

namespace Emitter

mutual

/-- Some emitter wants the state of the scheduler sampled. -/
def samples : Emitter → Bool
  | .silent => false
  | .log => true
  | .recorder _ samples | .transcriber _ samples => samples
  | .stack emitters => anySamples emitters

def anySamples : List Emitter → Bool
  | [] => false
  | e :: es => e.samples || anySamples es

end

/-- What concerns states is told to those that sample them, everything else to all. -/
def wants (samples : Bool) : Happening → Bool
  | .state .. | .schedulerInit => samples
  | _ => true

mutual

/-- Tells an emitter what happened in a flow. -/
def hear (flow : String) (h : Happening) : Emitter → Sinks → Sinks
  | .silent, s => s
  | .log, s =>
    match LogRecord.ofHappening flow h with
    | some r => s.write (.logged r)
    | none => s
  | .recorder name samples, s => if wants samples h then s.write (.heard name flow h) else s
  | .transcriber number samples, s => if wants samples h then s.transcribe number flow h else s
  | .stack emitters, s => hearAll flow h emitters s

def hearAll (flow : String) (h : Happening) : List Emitter → Sinks → Sinks
  | [], s => s
  | e :: es, s => hearAll flow h es (hear flow h e s)

end

end Emitter

end KeyFlow
