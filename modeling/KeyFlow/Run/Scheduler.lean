import KeyFlow.Run.Course
import KeyFlow.Settings.Run

/-!
Schedulers collect jobs and run them once. A job names the jobs it waits for by the handles that it
was given for them, and a scheduler takes no handle of another one.
-/

namespace KeyFlow

/-- Stands for a job in the scheduler that issued it. -/
structure Handle where
  scheduler : Nat
  index : Nat
  deriving DecidableEq, Repr

structure Job (σ : Type) where
  name : Option String := none
  dependencies : List Handle := []
  body : JobBody σ

/-- The job as a record for readers of programs, before it has dependencies. -/
def Job.inspect (name : Option String) : String :=
  "Job \x7b name: " ++ Text.quotedOption name ++ ", dependencies: [], .. \x7d"

inductive EnqueueError where
  | foreignHandle
  | unknown (u : UnknownDependency)
  deriving DecidableEq, Repr

def EnqueueError.message : EnqueueError → String
  | .foreignHandle => "dependency handle was issued by a different scheduler"
  | .unknown u => u.message

structure Scheduler (σ : Type) where
  id : Nat
  books : Books
  bodies : List (JobBody σ) := []
  names : List (Option String) := []
  settings : RunSettings

/-- The token of a run, and what happens to it from outside. -/
structure Token where
  /-- The token is cancelled before the run starts. -/
  cancelled : Bool := false
  cancelAt : Option Nat := none
  deriving DecidableEq, Repr

/-- How a run is cancelled, ended and watched. -/
structure Conditions (σ : Type) extends Token where
  deadline : Option Nat := none
  /-- What samples of the scheduler's state change. -/
  observe : Option (Nat → Snapshot → σ → σ) := none

/-- What a run came to. -/
structure Report (σ : Type) where
  scheduler : Nat
  states : List JobState
  /-- In the order in which they were recorded; the first one is the result of the run. -/
  errors : List Error
  shared : σ
  timeline : List Moment

namespace Report

variable {σ : Type}

def stateOf (r : Report σ) (h : Handle) : Option JobState :=
  if h.scheduler = r.scheduler then r.states[h.index]? else none

def isSuccess (r : Report σ) : Bool := r.errors.isEmpty

def result (r : Report σ) : Except Error Unit :=
  match r.errors with
  | [] => .ok ()
  | e :: _ => .error e

end Report

/-- How a run of jobs that share `σ` went; one that came to its end is reported as a `ρ`. -/
inductive Course (ρ σ : Type) where
  | reported (r : ρ)
  | timedOut (shared : σ)
  /-- Some jobs wait for what will never happen. -/
  | stalled (shared : σ)
  | fault (f : Fault)

def Course.map {ρ τ σ υ : Type} (f : ρ → τ) (g : σ → υ) : Course ρ σ → Course τ υ
  | .reported r => .reported (f r)
  | .timedOut shared => .timedOut (g shared)
  | .stalled shared => .stalled (g shared)
  | .fault e => .fault e

namespace Scheduler

variable {σ : Type}

def create (id : Nat) (settings : RunSettings) : Scheduler σ where
  id
  books := Books.create settings.limit settings.continueOnError
  settings

def size (s : Scheduler σ) : Nat := s.books.jobs.length

/-- Takes a job in and answers with a handle for it. -/
def enqueue (s : Scheduler σ) (job : Job σ) : Except EnqueueError Handle × Scheduler σ :=
  if job.dependencies.any (·.scheduler != s.id) then (.error .foreignHandle, s)
  else match s.books.addJob (job.dependencies.map (·.index)) with
    | (.error u, books) => (.error (.unknown u), { s with books })
    | (.ok index, books) =>
      (.ok ⟨s.id, index⟩,
        { s with books, bodies := s.bodies ++ [job.body], names := s.names ++ [job.name] })

/-- Takes jobs in up to the first that is refused. -/
def enqueueAll (s : Scheduler σ) : List (Job σ) → Except EnqueueError (List Handle × Scheduler σ)
  | [] => .ok ([], s)
  | job :: jobs =>
    match s.enqueue job with
    | (.error e, _) => .error e
    | (.ok h, s) => (s.enqueueAll jobs).map fun (hs, s) => (h :: hs, s)

/-- A period of no time counts as one millisecond. -/
def samplingFor (settings : RunSettings) (observe : Nat → Snapshot → σ → σ) : Sampling σ where
  period := max settings.flushMillis 1
  observe
  period_pos := by omega

/-- The jobs at the start of a run. -/
def start (s : Scheduler σ) (c : Conditions σ) (shared : σ) : Machine σ where
  books := s.books
  slots := s.bodies.map .fresh
  cancelled := c.cancelled
  cancelAt := c.cancelAt
  deadline := c.deadline
  sampling := c.observe.map (samplingFor s.settings)
  shared

/-- A run without failures that was cancelled comes to a cancellation. -/
def report (id : Nat) (m : Machine σ) : Report σ where
  scheduler := id
  states := m.books.states
  errors := if m.errors.isEmpty && (m.seen || m.cancelled) then [.cancelled] else m.errors
  shared := m.shared
  timeline := m.timeline

/-- Runs every job to an end of its own or to a skip. -/
def run (s : Scheduler σ) (c : Conditions σ) (shared : σ) : Course (Report σ) σ :=
  match (s.start c shared).run with
  | .finished m => .reported (report s.id m)
  | .timedOut m => .timedOut m.shared
  | .stalled m => .stalled m.shared
  | .fault f => .fault f

end Scheduler

end KeyFlow
