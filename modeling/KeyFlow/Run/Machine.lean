import KeyFlow.Jobs.Books
import KeyFlow.Run.Progress

/-!
A run of jobs under a virtual clock. The scheduler and the bodies take turns on one thread: the
scheduler starts what it can, then records one ended body or samples its state at a time, and waits;
while it waits the queued bodies run one after another, each up to its next pause; when nothing is
left to do the clock moves on to the next thing that happens by itself.
-/

namespace KeyFlow

/-- How a body ended, as its run records it. -/
abbrev Conclusion := Ending Completion

namespace Conclusion

def outcome : Conclusion → Outcome
  | .returned .done => .succeeded
  | .returned .skip => .declined
  | .failed _ | .panicked _ => .failed

def error? : Conclusion → Option Error
  | .returned _ => none
  | .failed e => some e
  | .panicked p => some (.panic p)

end Conclusion

/-- What the run of jobs tells about itself, in order. -/
inductive Moment where
  | started (job : Nat)
  | recorded (job : Nat) (outcome : Outcome)
  deriving DecidableEq, Repr

/-- Periodic samples of the scheduler's state. -/
structure Sampling (σ : Type) where
  period : Nat
  due : Nat := 0
  observe : Nat → Snapshot → σ → σ
  period_pos : 0 < period

structure Machine (σ : Type) where
  books : Books
  slots : List (Slot σ)
  /-- Jobs whose bodies are to run on, the next one first. -/
  queue : List Nat := []
  /-- Ended bodies that are not recorded yet, the oldest first. -/
  conclusions : List (Nat × Conclusion) := []
  /-- Jobs whose token lives. One that ends gives its place to the last. -/
  tokens : List Nat := []
  /-- Jobs that cancelled their own token. -/
  selfCancelled : List Nat := []
  clock : Nat := 0
  cancelled : Bool := false
  /-- The scheduler has seen the cancellation. -/
  seen : Bool := false
  /-- When the run will be cancelled from outside. -/
  cancelAt : Option Nat := none
  /-- When the caller loses patience. -/
  deadline : Option Nat := none
  sampling : Option (Sampling σ) := none
  /-- It is the scheduler's turn. -/
  busy : Bool := true
  shared : σ
  errors : List Error := []
  timeline : List Moment := []

/-- How a run stops, and in which state. -/
inductive Stop (σ : Type) where
  | finished (m : Machine σ)
  /-- The deadline passed. -/
  | timedOut (m : Machine σ)
  /-- Nothing will ever happen again. -/
  | stalled (m : Machine σ)
  | fault (f : Fault)

namespace Machine

variable {σ : Type}

/-! ## Bodies -/

/-- Puts the body of a job that sleeps or waits back into the queue. -/
def wake (m : Machine σ) (job : Nat) : Machine σ :=
  match m.slots[job]? with
  | some (.asleep _ next) | some (.awaiting next) =>
    { m with slots := m.slots.set job (.queued (next m.clock)), queue := m.queue ++ [job] }
  | _ => m

def isWaiting (m : Machine σ) (job : Nat) : Bool :=
  match m.slots[job]? with
  | some (.awaiting _) => true
  | _ => false

/-- Closes the gaps in a list from the first one on: each takes the last token over. -/
def closeGaps : List (Option Nat) → List Nat
  | [] => []
  | some token :: rest => token :: closeGaps rest
  | [none] => []
  | none :: token :: rest =>
    closeGaps ((token :: rest).getLast (by simp) :: (token :: rest).dropLast)
termination_by gapped => gapped.length

/-- The order in which a cancellation reaches the live tokens. It begins in front of the first one,
so that the last one comes first; a token that is cancelled already leaves a gap. -/
def reachOrder (m : Machine σ) : List Nat :=
  closeGaps (none :: m.tokens.map fun t => if m.selfCancelled.contains t then none else some t)

/-- Wakes the jobs that wait for a cancellation, in the order in which it reaches their tokens. -/
def wakeWaiters (m : Machine σ) : Machine σ := (m.reachOrder.filter m.isWaiting).foldl wake m

/-- Takes a job's token away; the last token takes its place. -/
def dropToken (tokens : List Nat) (job : Nat) : List Nat :=
  match tokens.getLast? with
  | none => []
  | some last => tokens.dropLast.map fun t => if t = job then last else t

/-- What a body of this job sees. -/
def world (m : Machine σ) (job : Nat) : World σ where
  clock := m.clock
  cancelled := m.cancelled
  ownCancelled := m.selfCancelled.contains job
  shared := m.shared

/-- The slot of a body that paused at this time. -/
def slotAfter (clock : Nat) : Pause σ → Slot σ
  | .ended _ => .spent
  | .asleep millis next => .asleep (clock + millis) next
  | .awaiting next => .awaiting next

/-- Hands the end of a body over to the scheduler. -/
def conclude (m : Machine σ) (job : Nat) : Pause σ → Machine σ
  | .ended c =>
    { m with conclusions := m.conclusions ++ [(job, c)], tokens := dropToken m.tokens job }
  | _ => m

/-- Takes over what a body left behind when it paused. -/
def leave (m : Machine σ) (job : Nat) (pause : Pause σ) (w : World σ) : Machine σ :=
  let m' := { m with
    slots := m.slots.set job (slotAfter m.clock pause)
    shared := w.shared
    cancelled := w.cancelled
    selfCancelled := if w.ownCancelled then job :: m.selfCancelled else m.selfCancelled }
  (if w.cancelled && !m.cancelled then m'.wakeWaiters else m').conclude job pause

/-- Runs the body of a queued job up to its next pause. -/
def poll (m : Machine σ) (job : Nat) : Machine σ :=
  match m.slots[job]? with
  | some (.queued body) =>
    let (pause, w) := body.advance (m.world job)
    m.leave job pause w
  | _ => m

/-! ## The scheduler's turn -/

/-- Halts the books on a cancellation that the scheduler has not seen yet. -/
def notice (m : Machine σ) : Except Fault (Machine σ) :=
  if m.cancelled && !m.seen then
    match m.books.halt .cancelled with
    | .error f => .error f
    | .ok books => .ok { m with seen := true, books }
  else .ok m

/-- Starts every job that may start. One whose body is gone fails at once. -/
def dispatchAll (m : Machine σ) : Except Fault (Machine σ) :=
  match _next : m.books.nextDispatch with
  | .error f => .error f
  | .ok (none, books) => .ok { m with books }
  | .ok (some job, books) =>
    match m.slots[job]? with
    | some (.fresh body) =>
      dispatchAll { m with
        books
        slots := m.slots.set job (.queued body)
        queue := m.queue ++ [job]
        tokens := m.tokens ++ [job]
        timeline := m.timeline ++ [.started job] }
    | _ =>
      match _failed : books.complete job .failed with
      | .error f => .error f
      | .ok books => dispatchAll { m with books }
termination_by m.books.slots
decreasing_by
  · exact Books.slots_nextDispatch _next
  · exact Nat.lt_of_le_of_lt (Books.slots_complete _failed) (Books.slots_nextDispatch _next)

/-- Records how a job ended. -/
def record (m : Machine σ) (job : Nat) (c : Conclusion) : Except Fault (Machine σ) :=
  match m.books.complete job c.outcome with
  | .error f => .error f
  | .ok books =>
    .ok { m with
      books
      errors := m.errors ++ c.error?.toList
      timeline := m.timeline ++ [.recorded job c.outcome] }

def isTickDue (m : Machine σ) : Bool :=
  match m.sampling with
  | some s => s.due ≤ m.clock
  | none => false

/-- The caller's patience had ended before the scheduler came to wait. -/
def isOverdue (m : Machine σ) : Bool :=
  match m.deadline with
  | some time => time ≤ m.clock
  | none => false

/-- Samples the state of the books; the next sample is due one period later. -/
def sample (m : Machine σ) : Machine σ :=
  match m.sampling with
  | some s =>
    { m with
      shared := s.observe m.clock m.books.snapshot m.shared
      sampling := some { s with due := m.clock + s.period } }
  | none => m

/-- Nothing runs and nothing can start although jobs are left. -/
def giveUp (m : Machine σ) : Stop σ :=
  match m.books.halt .flowFailed with
  | .error f => .fault f
  | .ok books =>
    let m := { m with books, errors := m.errors ++ [.scheduler "no runnable jobs remain"] }
    if books.isFinished then .finished m else .stalled m

/-- What the scheduler does once everything that may start has started. -/
def serve (m : Machine σ) : Except (Stop σ) (Machine σ) :=
  if m.books.isFinished then .error (.finished m)
  else match m.conclusions with
    | (job, c) :: rest =>
      match record { m with conclusions := rest, busy := true } job c with
      | .error f => .error (.fault f)
      | .ok m => .ok m
    | [] =>
      if m.tokens.isEmpty then .error m.giveUp
      else if m.isTickDue then .ok { m.sample with busy := true }
      else if m.isOverdue then .error (.timedOut m)
      else .ok { m with busy := false }

def round (m : Machine σ) : Except (Stop σ) (Machine σ) :=
  match m.notice with
  | .error f => .error (.fault f)
  | .ok m =>
    match m.dispatchAll with
    | .error f => .error (.fault f)
    | .ok m => m.serve

/-- Something waits for the scheduler. -/
def hasNews (m : Machine σ) : Bool :=
  (m.cancelled && !m.seen) || !m.conclusions.isEmpty || m.isTickDue

/-! ## The clock -/

def wakeTime? : Slot σ → Option Nat
  | .asleep wakeAt _ => some wakeAt
  | _ => none

/-- The next time at which something happens by itself, samples apart. -/
def horizon (m : Machine σ) : Option Nat :=
  (m.slots.filterMap wakeTime? ++ m.cancelAt.toList ++ m.deadline.toList).min?

/-- The first job that sleeps until this time. -/
def sleeper? (m : Machine σ) (time : Nat) : Option Nat :=
  m.slots.findIdx? fun slot => wakeTime? slot == some time

/-- Lets happen what this time brings. -/
def reach (m : Machine σ) (time : Nat) : Except (Stop σ) (Machine σ) :=
  let m := { m with clock := max m.clock time }
  if m.deadline = some time then .error (.timedOut m)
  else if m.cancelAt = some time then
    .ok { m with cancelAt := none, cancelled := true }.wakeWaiters
  else match m.sleeper? time with
    | some job => .ok (m.wake job)
    | none => .error (.stalled m)

/-- Moves the clock on. -/
def advanceClock (m : Machine σ) : Except (Stop σ) (Machine σ) :=
  match m.horizon with
  | none => .error (.stalled m)
  | some time =>
    match m.sampling with
    | some s =>
      if s.due < time then .ok { m with clock := max m.clock s.due } else m.reach time
    | none => m.reach time

/-! ## Runs -/

/-- One step of a run. -/
def step (m : Machine σ) : Except (Stop σ) (Machine σ) :=
  if m.busy then m.round
  else match m.queue with
    | job :: rest => .ok (poll { m with queue := rest } job)
    | [] => if m.hasNews then m.round else m.advanceClock

end Machine

end KeyFlow
