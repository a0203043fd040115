import KeyFlow.Proofs.Jobs.Release

/-!
The invariant that ties the entries of the books to the dependencies with which the jobs were
added: the lists of consumers name exactly the jobs behind an entry, the counts of outstanding
dependencies add up the places in these lists, and a block is set exactly when a dependency ended
without success.
-/

namespace KeyFlow

namespace JobState

/-- The job was started, and was not declined. -/
def hasBegun : JobState → Bool
  | .running | .succeeded | .failed => true
  | .pending | .skipped _ => false

end JobState

namespace Books

/-- Why jobs behind this one cannot run. -/
def blocksOf (b : Books) (i : Nat) : Option SkipCause := (b.stateOf i).bind JobState.blocks

theorem stateOf_eq {b : Books} {i : Nat} {e : Entry} (h : b.jobs[i]? = some e) :
    b.stateOf i = some e.state := by
  rw [stateOf, h, Option.map_some]

theorem entry_of_stateOf {b : Books} {i : Nat} {s : JobState} (h : b.stateOf i = some s) :
    ∃ e, b.jobs[i]? = some e ∧ e.state = s := Option.map_eq_some_iff.mp h

theorem lt_of_stateOf {b : Books} {i : Nat} {s : JobState} (h : b.stateOf i = some s) :
    i < b.jobs.length := by
  obtain ⟨e, found, _⟩ := entry_of_stateOf h
  exact (List.getElem?_eq_some_iff.mp found).1

theorem getElem?_states (b : Books) (i : Nat) : b.states[i]? = b.stateOf i := by
  rw [states, List.getElem?_map, stateOf]

theorem blocksOf_eq {b : Books} {i : Nat} {s : JobState} (h : b.stateOf i = some s) :
    b.blocksOf i = s.blocks := by
  rw [blocksOf, h, Option.bind_some]

theorem blocksOf_congr {b b' : Books} {i : Nat} (h : b'.stateOf i = b.stateOf i) :
    b'.blocksOf i = b.blocksOf i := by
  rw [blocksOf, blocksOf, h]

theorem blocksOf_live {b : Books} {i : Nat} {e : Entry} (found : b.jobs[i]? = some e)
    (live : e.state.isTerminal = false) : b.blocksOf i = none := by
  rw [blocksOf_eq (stateOf_eq found)]
  cases blocks : e.state.blocks with
  | none => rfl
  | some cause => rw [JobState.isTerminal_of_blocks blocks] at live; cases live

/-- The entries fit the dependencies; those of job `j` are `deps[j]`. -/
structure Tied (deps : List (List Nat)) (b : Books) : Prop where
  length : deps.length = b.jobs.length
  earlier : ∀ (j d : Nat), d ∈ deps[j]?.getD [] → d < j
  /-- A job that is not at an end is waited for by whoever named it. -/
  consumers : ∀ (i : Nat) (e : Entry), b.jobs[i]? = some e → e.state.isTerminal = false →
    ∀ c, e.consumers.count c = (deps[c]?.getD []).count i
  outstanding : ∀ (c : Nat) (e : Entry), b.jobs[c]? = some e → e.outstanding = places b.jobs c
  fresh : ∀ c, b.jobs.length ≤ c → places b.jobs c = 0
  /-- Until the halt nobody waits for a job that is at an end. -/
  closed : b.halted = none → ∀ (i : Nat) (e : Entry), b.jobs[i]? = some e →
    e.state.isTerminal = true → e.consumers = []
  unblocked : ∀ (c : Nat) (e : Entry), b.jobs[c]? = some e → e.state = .pending →
    e.blocked = none → ∀ d ∈ deps[c]?.getD [], b.blocksOf d = none
  blocked : ∀ (c : Nat) (e : Entry) (cause : SkipCause), b.jobs[c]? = some e →
    e.blocked = some cause → ∃ d ∈ deps[c]?.getD [], b.blocksOf d = some cause
  begun : ∀ (c : Nat) (e : Entry), b.jobs[c]? = some e → e.state.hasBegun = true →
    ∀ d ∈ deps[c]?.getD [], b.stateOf d = some .succeeded
  skipped : ∀ (c : Nat) (e : Entry) (cause : SkipCause), b.jobs[c]? = some e →
    e.state = .skipped cause →
      cause = .declined ∨ b.halted = some cause ∨
        ∃ d ∈ deps[c]?.getD [], b.blocksOf d = some cause
  stopped : b.halted.isSome = true → ∀ (c : Nat) (e : Entry), b.jobs[c]? = some e →
    e.state ≠ .pending

namespace Tied

variable {deps : List (List Nat)} {b : Books}

theorem create (limit : Limit) (continueOnError : Bool) :
    Tied [] (Books.create limit continueOnError) := by
  constructor <;> simp [Books.create, places]

/-- Whoever waits for a job that is not at an end stands behind it. -/
theorem behind (tied : Tied deps b) {i c : Nat} {e : Entry} (found : b.jobs[i]? = some e)
    (live : e.state.isTerminal = false) (mem : c ∈ e.consumers) :
    i ∈ deps[c]?.getD [] ∧ i < c ∧ c < b.jobs.length := by
  have named : i ∈ deps[c]?.getD [] := by
    rw [← List.count_pos_iff, ← tied.consumers i e found live c]
    exact List.count_pos_iff.mpr mem
  refine ⟨named, tied.earlier c i named, ?_⟩
  by_contra far
  have settled : deps[c]? = none := by
    rw [List.getElem?_eq_none_iff, tied.length]
    omega
  simp [settled] at named

theorem blocked_ne_declined (tied : Tied deps b) {c : Nat} {e : Entry}
    (found : b.jobs[c]? = some e) : e.blocked ≠ some .declined := by
  intro block
  obtain ⟨d, _, blocks⟩ := tied.blocked c e _ found block
  obtain ⟨s, _, blocks⟩ := Option.bind_eq_some_iff.mp blocks
  exact s.blocks_ne_declined blocks

theorem lt_length (tied : Tied deps b) {c d : Nat} (inRange : c < b.jobs.length)
    (named : d ∈ deps[c]?.getD []) : d < b.jobs.length :=
  Nat.lt_trans (tied.earlier c d named) inRange

/-- A job with nothing outstanding has only dependencies that are at an end. -/
theorem ended_of_outstanding (tied : Tied deps b) {c : Nat} {e : Entry}
    (found : b.jobs[c]? = some e) (settled : e.outstanding = 0) :
    ∀ d ∈ deps[c]?.getD [], ∃ x, b.jobs[d]? = some x ∧ x.state.isTerminal = true := by
  intro d named
  have inRange := tied.lt_length (List.getElem?_eq_some_iff.mp found).1 named
  refine ⟨b.jobs[d], List.getElem?_eq_getElem inRange, ?_⟩
  by_contra live
  have counted := tied.consumers d _ (List.getElem?_eq_getElem inRange) (by simpa using live) c
  have le := count_le_places (List.getElem?_eq_getElem inRange) c
  have pos := List.count_pos_iff.mpr named
  rw [tied.outstanding c e found] at settled
  omega

/-- A job that may start has only dependencies that succeeded. -/
theorem succeeded_of_ready (tied : Tied deps b) {c : Nat} {e : Entry}
    (found : b.jobs[c]? = some e) (pending : e.state = .pending) (settled : e.outstanding = 0)
    (free : e.blocked = none) : ∀ d ∈ deps[c]?.getD [], b.stateOf d = some .succeeded := by
  intro d named
  obtain ⟨x, foundx, terminal⟩ := tied.ended_of_outstanding found settled d named
  have blocks := tied.unblocked c e found pending free d named
  rw [blocksOf_eq (stateOf_eq foundx)] at blocks
  rw [stateOf_eq foundx, JobState.blocks_eq_none terminal blocks]

end Tied

end Books

end KeyFlow
