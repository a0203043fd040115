import KeyFlow.Jobs.State

/-!
Settings of a run: how many jobs at once, whether to go on after a failure, and how often to sample
the state of the scheduler.
-/

namespace KeyFlow

structure RunSettings where
  limit : Limit := none
  continueOnError : Bool := false
  flushMillis : Nat := 100
  deriving DecidableEq

/-- Zero lifts the limit. -/
def RunSettings.withLimit (s : RunSettings) (n : Nat) : RunSettings :=
  { s with limit := Limit.ofNat n }

end KeyFlow
