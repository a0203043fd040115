import KeyFlow.Proofs.Jobs.Dispatch

/-!
What a halt makes of the jobs that did not start. Each is skipped: for the block that it carries if
one of its dependencies ended without success, else for the cause of the halt. When the halt comes
from the first failure, the jobs right behind the failed one carry its block.
-/

namespace KeyFlow

theorem SkipCause.inherited_of_isClean {cause : SkipCause} (clean : cause.isClean = true) :
    cause.inherited = .dependencyDeclined := by
  cases cause <;> first | rfl | cases clean

namespace Books

variable {deps : List (List Nat)} {b b' : Books}

/-- A pending job carries the block of a dependency, or no dependency of it has one. -/
theorem Tied.block_cases (tied : Tied deps b) {c : Nat} {x : Entry} (found : b.jobs[c]? = some x)
    (pending : x.state = .pending) :
    (x.blocked = none ∧ ∀ d ∈ deps[c]?.getD [], b.blocksOf d = none) ∨
      ∃ d ∈ deps[c]?.getD [], ∃ cause, x.blocked = some cause ∧ b.blocksOf d = some cause := by
  cases block : x.blocked with
  | none => exact .inl ⟨rfl, tied.unblocked c x found pending block⟩
  | some cause =>
    obtain ⟨d, named, blocks⟩ := tied.blocked c x cause found block
    exact .inr ⟨d, named, cause, rfl, blocks⟩

/-- A halt of open books. -/
theorem halt_eq (unhalted : b.halted = none) {cause : SkipCause} (halted : b.halt cause = .ok b') :
    ∃ n, b' = b.haltedBy cause n := by
  rw [halt, unhalted] at halted
  simp only at halted
  split at halted
  · cases halted
  · cases halted
    exact ⟨_, rfl⟩

theorem halt_of_halted (closed : b.halted.isSome = true) (cause : SkipCause) :
    b.halt cause = .ok b := by
  obtain ⟨before, halted⟩ := Option.isSome_iff_exists.mp closed
  rw [halt, halted]

/-- A job that a halt skips. -/
theorem stateOf_halt (unhalted : b.halted = none) {cause : SkipCause}
    (halted : b.halt cause = .ok b') {c : Nat} {x : Entry} (found : b.jobs[c]? = some x)
    (pending : x.state = .pending) :
    b'.stateOf c = some (.skipped (x.blocked.getD cause)) := by
  obtain ⟨n, rfl⟩ := halt_eq unhalted halted
  rw [stateOf_eq ((entry_haltedBy cause n).mpr ⟨x, found, rfl⟩),
    Entry.atHalt_pending cause x pending]

/-! ## The first failure -/

/-- Why a job that has not started is skipped when `f` is the first job to fail: some dependency of
it was skipped before, or `f` is one of its dependencies, or neither. -/
def stopCause (deps : List (List Nat)) (b : Books) (f j : Nat) : SkipCause :=
  if (deps[j]?.getD []).any fun d => (b.stateOf d).any JobState.isSkipped then .dependencyDeclined
  else if f ∈ deps[j]?.getD [] then .dependencyFailed
  else .flowFailed

/-- Before the first failure only declined jobs are a reason to skip others. -/
theorem Tied.block_of_open (tied : Tied deps b)
    (clean : ∀ d cause, b.stateOf d = some (.skipped cause) → cause.isClean = true)
    (unfailed : ∀ d, b.stateOf d ≠ some .failed) {j : Nat} {x : Entry}
    (found : b.jobs[j]? = some x) (pending : x.state = .pending) :
    x.blocked = if (deps[j]?.getD []).any fun d => (b.stateOf d).any JobState.isSkipped
      then some .dependencyDeclined else none := by
  rcases tied.block_cases found pending with ⟨free, blocks⟩ | ⟨d, named, cause, block, blocks⟩
  · rw [free, if_neg]
    rw [List.any_eq_true]
    rintro ⟨d, named, skipped⟩
    obtain ⟨s, state, skipped⟩ := Option.any_eq_true _ _ |>.mp skipped
    cases s with
    | skipped cause =>
      have unblocked := blocks d named
      rw [blocksOf_eq state] at unblocked
      cases unblocked
    | _ => cases skipped
  · obtain ⟨s, state, blocking⟩ := Option.bind_eq_some_iff.mp blocks
    cases s with
    | pending | running | succeeded => cases blocking
    | failed => exact absurd state (unfailed d)
    | skipped before =>
      cases blocking
      rw [block, SkipCause.inherited_of_isClean (clean d before state), if_pos]
      exact List.any_eq_true.mpr ⟨d, named, by rw [state]; rfl⟩

/-- The first failure halts books that do not go on: nothing that has not started will. -/
theorem complete_stops (sound : Sound deps b) (unhalted : b.halted = none)
    (clean : ∀ d cause, b.stateOf d = some (.skipped cause) → cause.isClean = true)
    (unfailed : ∀ d, b.stateOf d ≠ some .failed) (stops : b.continueOnError = false) {f : Nat}
    (running : b.stateOf f = some .running) (complete : b.complete f .failed = .ok b') :
    b'.halted = some .flowFailed ∧ ∀ j, b.stateOf j = some .pending →
      b'.stateOf j = some (.skipped (stopCause deps b f j)) := by
  obtain ⟨n, e, b₁, count, done, sound₁, found, _, ended, frame, _⟩ :=
    finish_running_ok sound running .failed
  obtain ⟨e', found', state⟩ := entry_of_stateOf running
  rw [found, Option.some.injEq] at found'
  subst found'
  have open₁ : b₁.halted = none := ended.halted.trans unhalted
  have halted : b₁.halt .flowFailed = .ok b' := by
    rw [Books.complete, running] at complete
    simp only [count, done, frame.continueOnError] at complete
    rwa [if_pos ⟨trivial, by rw [stops]; rfl⟩] at complete
  constructor
  · obtain ⟨m, rfl⟩ := halt_eq open₁ halted
    rfl
  · intro j pending
    obtain ⟨x, foundx, waits⟩ := entry_of_stateOf pending
    have ne : j ≠ f := by
      rintro rfl
      rw [running] at pending
      cases pending
    have entry := ended.other j x ne foundx
    rw [stateOf_halt open₁ halted entry ((Entry.released_state ..).trans waits)]
    -- The failed job ran, so its consumers are just the jobs that depend on it.
    have behind : 0 < e.consumers.count j ↔ f ∈ deps[j]?.getD [] := by
      rw [sound.tied.consumers f e found (by rw [state]; rfl) j]
      exact List.count_pos_iff
    have block := sound.tied.block_of_open clean unfailed foundx waits
    by_cases named : f ∈ deps[j]?.getD []
    · rw [Entry.blocked_released _ _ _ (behind.mpr named), block, stopCause, if_pos named]
      split <;> rfl
    · have apart : e.consumers.count j = 0 := by
        rw [← behind] at named
        omega
      rw [apart, Entry.released_zero, block, stopCause, if_neg named]
      split <;> rfl

end Books

end KeyFlow
