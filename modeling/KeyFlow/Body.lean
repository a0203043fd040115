import KeyFlow.Error

/-!
Bodies of jobs and tasks. A body is a tree of what it does: it asks its surroundings, sleeps, waits
for the cancellation of its run, and ends. Every body of this type ends on every path, whatever it
is answered; a process is a body whose requests are changes of a state that all jobs share.
-/

namespace KeyFlow

/-- How a body ended. -/
inductive Ending (α : Type) where
  | returned (result : α)
  | failed (e : Error)
  | panicked (p : Panic)

def Ending.map {α β : Type} (f : α → β) : Ending α → Ending β
  | .returned a => .returned (f a)
  | .failed e => .failed e
  | .panicked p => .panicked p

inductive Body (κ : Type) (ρ : κ → Type) (α : Type) where
  | done (result : α)
  | call (request : κ) (next : ρ request → Body κ ρ α)
  /-- Sleeps, then goes on with the time of waking. -/
  | sleep (millis : Nat) (next : Nat → Body κ ρ α)
  /-- Waits until the body's own token is cancelled, then goes on with the time of waking. -/
  | awaitCancel (next : Nat → Body κ ρ α)
  | isCancelled (next : Bool → Body κ ρ α)
  /-- Cancels the run, and with it every job of the run. -/
  | cancelRun (next : Body κ ρ α)
  /-- Cancels the token of this body alone. -/
  | cancelOwn (next : Body κ ρ α)

/-- A body whose requests change the state `σ` of its run; it is answered with the state before. -/
abbrev Process (σ α : Type) : Type := Body (σ → σ) (fun _ => σ) α

namespace Body

variable {κ : Type} {ρ : κ → Type} {σ τ α β : Type}

/-- The same body with another result. -/
def map (f : α → β) : Body κ ρ α → Body κ ρ β
  | .done a => .done (f a)
  | .call request next => .call request fun reply => (next reply).map f
  | .sleep millis next => .sleep millis fun t => (next t).map f
  | .awaitCancel next => .awaitCancel fun t => (next t).map f
  | .isCancelled next => .isCancelled fun b => (next b).map f
  | .cancelRun next => .cancelRun (next.map f)
  | .cancelOwn next => .cancelOwn (next.map f)

/-- Answers the requests of a body, whose own state is `own`, from the state of its run, and goes on
with `k` where the body ends. -/
def interpret (answer : τ → (request : κ) → σ → ρ request × τ × σ) (k : τ → α → Process σ β) :
    τ → Body κ ρ α → Process σ β
  | own, .done a => k own a
  | own, .call request next =>
    .call (fun s => (answer own request s).2.2) fun s =>
      interpret answer k (answer own request s).2.1 (next (answer own request s).1)
  | own, .sleep millis next => .sleep millis fun t => interpret answer k own (next t)
  | own, .awaitCancel next => .awaitCancel fun t => interpret answer k own (next t)
  | own, .isCancelled next => .isCancelled fun b => interpret answer k own (next b)
  | own, .cancelRun next => .cancelRun (interpret answer k own next)
  | own, .cancelOwn next => .cancelOwn (interpret answer k own next)

end Body

namespace Process

variable {σ α ε : Type}

/-- Changes the state of the run, then goes on. -/
def change (f : σ → σ) (next : Process σ α) : Process σ α := .call f fun _ => next

/-- Looks at the state of the run. -/
def look (next : σ → Process σ α) : Process σ α := .call id next

/-- Tries to change the state of the run, and goes on according to how far that went. -/
def attempt (f : σ → Except ε Unit × σ) (onError : ε → Process σ α) (next : Process σ α) :
    Process σ α :=
  .call (fun s => (f s).2) fun s =>
    match (f s).1 with
    | .ok () => next
    | .error e => onError e

end Process

end KeyFlow
