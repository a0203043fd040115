import KeyFlow.Problem
import KeyFlow.Text.Quoted

/-!
Errors of runs and of settings, panics caught at the edge of a job, and the wording of both.
-/

namespace KeyFlow

/-- An error of a task's own: its message, then the messages of what caused it. -/
structure Trouble where
  message : String
  causes : List String := []
  deriving DecidableEq, Repr

namespace Trouble

/-- All messages, the outermost first. -/
def messages (t : Trouble) : List String := t.message :: t.causes

/-- The same error seen from further out. -/
def inContext (t : Trouble) (message : String) : Trouble := ⟨message, t.messages⟩

end Trouble

/-- What a panic carries: a fixed text, a text made for it, or something that is no text. -/
inductive Payload where
  | fixed (text : String)
  | made (text : String)
  | other
  deriving DecidableEq, Repr

def Payload.message : Payload → String
  | .fixed text | .made text => text
  | .other => "non-string panic payload"

/-- A panic that was caught. Its payload can be taken out once. -/
structure Panic where
  task : Option String := none
  message : String
  payload : Option Payload
  deriving DecidableEq, Repr

namespace Panic

def ofPayload (p : Payload) : Panic := ⟨none, p.message, some p⟩

def within (p : Panic) (task : String) : Panic := { p with task := some task }

def takePayload (p : Panic) : Option Payload × Panic := (p.payload, { p with payload := none })

def text (p : Panic) : String :=
  match p.task with
  | some task => s!"task {task} panicked: {p.message}"
  | none => s!"panic: {p.message}"

/-- The panic as a record for readers of programs. -/
def inspect (p : Panic) : String :=
  "PanicError \x7b task: " ++ Text.quotedOption p.task ++ ", message: " ++ Text.quoted p.message ++
    ", .. \x7d"

end Panic

inductive Error where
  | compile (found : List Diagnostic)
  | task (name : String) (source : Trouble)
  | panic (p : Panic)
  | cancelled
  | jobLost (what : String)
  | inputs (what : String)
  | scheduler (what : String)
  /-- Every failure of a run that went on after the first one. -/
  | multiple (errors : List Error)
  | config (what : String)
  | io (what : String)
  | toml
  | other (source : Trouble)

namespace Error

mutual

def message : Error → String
  | .compile found => "\n".intercalate (found.map Diagnostic.text)
  | .task name source => s!"task {name} failed: {source.message}"
  | .panic p => p.text
  | .cancelled => "flow cancelled"
  | .jobLost what => s!"job exited unexpectedly: {what}"
  | .inputs what => s!"invalid flow inputs: {what}"
  | .scheduler what => s!"Scheduler error: {what}"
  | .multiple errors =>
    s!"{errors.length} jobs failed: " ++ "; ".intercalate (messageList errors)
  | .config what => s!"Configuration error: {what}"
  | .io what => s!"IO error: {what}"
  | .toml => "TOML parsing error"
  | .other source => source.message

def messageList : List Error → List String
  | [] => []
  | e :: es => e.message :: messageList es

end

/-- The error as the own error of a task that passes it on. -/
def toTrouble : Error → Trouble
  | .task name source => ⟨s!"task {name} failed: {source.message}", source.messages⟩
  | .io what => ⟨s!"IO error: {what}", [what]⟩
  | .other source => source
  | e => ⟨e.message, []⟩

def isPanic : Error → Bool
  | .panic _ => true
  | _ => false

def isCancelled : Error → Bool
  | .cancelled => true
  | _ => false

end Error

/-- The first cycle among the findings. -/
def firstCycle (found : List Diagnostic) : Option Diagnostic := found.find? (·.isCycle)

end KeyFlow
