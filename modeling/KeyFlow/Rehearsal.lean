import KeyFlow.Run.Scheduler
import KeyFlow.Settings.Duration

/-!
Jobs for rehearsals: each behaves in one simple way, and all of them keep one log of who started,
who finished and how many were at work at once.
-/

namespace KeyFlow

inductive Behavior where
  | succeed
  | fail (message : String)
  | panic (message : String)
  | decline
  | sleep (millis : Nat)
  | waitForCancel

structure JobLog where
  started : List String := []
  finished : List String := []
  active : Nat := 0
  peak : Nat := 0

namespace JobLog

def start (name : String) (l : JobLog) : JobLog :=
  { l with
    started := l.started ++ [name]
    active := l.active + 1
    peak := max l.peak (l.active + 1) }

/-- A job that panics leaves without having finished. -/
def leave (l : JobLog) : JobLog := { l with active := l.active - 1 }

def finish (name : String) (l : JobLog) : JobLog :=
  { l.leave with finished := l.finished ++ [name] }

def wasStarted (l : JobLog) (name : String) : Bool := name ∈ l.started

/-- Position in the order of starting. -/
def startPosition (l : JobLog) (name : String) : Option Nat := l.started.findIdx? (· == name)

end JobLog

namespace Behavior

/-- What is left to do once the job has started. -/
def rest (name : String) : Behavior → JobBody JobLog
  | .succeed => ended (.returned .done)
  | .fail message => ended (.failed (.other ⟨message, []⟩))
  | .panic message => Process.change JobLog.leave (.done (.panicked (.ofPayload (.made message))))
  | .decline => ended (.returned .skip)
  | .sleep millis => .sleep millis fun _ => ended (.returned .done)
  | .waitForCancel => .awaitCancel fun _ => ended (.returned .done)
where
  ended (c : Ending Completion) : JobBody JobLog :=
    Process.change (JobLog.finish name) (.done c)

def body (b : Behavior) (name : String) : JobBody JobLog :=
  Process.change (JobLog.start name) (b.rest name)

def job (b : Behavior) (name : String) : Job JobLog := { name := some name, body := b.body name }

end Behavior

/-- How a rehearsal that did not end in time is reported. -/
def timeoutMessage (millis : Nat) : String :=
  s!"test did not finish within {Duration.text millis}"

end KeyFlow
