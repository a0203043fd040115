/-!
States of jobs, causes for which a job never ran its body to an end of its own, and what a state
means for the jobs that depend on it.
-/

namespace KeyFlow

inductive SkipCause where
  /-- The job itself declined to do its work. -/
  | declined
  | dependencyDeclined
  | dependencyFailed
  /-- Another job failed and the run was halted. -/
  | flowFailed
  | cancelled
  deriving DecidableEq, Repr

namespace SkipCause

/-- Skips that do not stem from an error. -/
def isClean : SkipCause → Bool
  | .declined | .dependencyDeclined => true
  | _ => false

/-- The cause passed on to the jobs that depend on a skipped one. -/
def inherited : SkipCause → SkipCause
  | .declined | .dependencyDeclined => .dependencyDeclined
  | cause => cause

def text : SkipCause → String
  | .declined => "Declined"
  | .dependencyDeclined => "DependencyDeclined"
  | .dependencyFailed => "DependencyFailed"
  | .flowFailed => "FlowFailed"
  | .cancelled => "Cancelled"

end SkipCause

inductive JobState where
  | pending
  | running
  | succeeded
  | failed
  | skipped (cause : SkipCause)
  deriving DecidableEq, Repr

namespace JobState

def isSkipped : JobState → Bool
  | .skipped _ => true
  | _ => false

def isTerminal : JobState → Bool
  | .pending | .running => false
  | _ => true

def skipCause : JobState → Option SkipCause
  | .skipped cause => some cause
  | _ => none

/-- Why a job cannot run after a dependency that ended in this state. -/
def blocks : JobState → Option SkipCause
  | .failed => some .dependencyFailed
  | .skipped cause => some cause.inherited
  | _ => none

def text : JobState → String
  | .pending => "Pending"
  | .running => "Running"
  | .succeeded => "Succeeded"
  | .failed => "Failed"
  | .skipped cause => s!"Skipped({cause.text})"

end JobState

/-- How a job's body ended. -/
inductive Outcome where
  | succeeded
  | declined
  | failed
  deriving DecidableEq, Repr

def Outcome.state : Outcome → JobState
  | .succeeded => .succeeded
  | .declined => .skipped .declined
  | .failed => .failed

/-- The most jobs that may run at once; no limit if there is none. -/
abbrev Limit := Option { n : Nat // 0 < n }

/-- Zero lifts the limit. -/
def Limit.ofNat (n : Nat) : Limit := if h : 0 < n then some ⟨n, h⟩ else none

def Limit.toNat? (l : Limit) : Option Nat := l.map (·.1)

/-- Counts over the jobs of a run at one moment. -/
structure Snapshot where
  /-- Jobs not yet at an end, running ones included. -/
  pending : Nat
  ready : Nat
  /-- Jobs that wait for dependencies. -/
  waiting : Nat
  idleWorkers : Option Nat
  limit : Option Nat
  deriving DecidableEq, Repr

end KeyFlow
