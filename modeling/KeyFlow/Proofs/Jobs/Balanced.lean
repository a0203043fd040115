import KeyFlow.Proofs.Jobs.Idle
import KeyFlow.Proofs.Jobs.Refused
import Mathlib.Algebra.BigOperators.Group.List.Basic

/-!
The books balance. All that they count beside the jobs, and the queue that they keep, can be read
off the states of the jobs and the dependencies with which these were added, so a snapshot adds up
and no call takes a count below zero or looks for a job that is not there.
-/

namespace KeyFlow

/-- Counting what is named, number by number. -/
theorem sum_count_range (p : Nat → Bool) (ds : List Nat) {n : Nat} (inRange : ∀ d ∈ ds, d < n) :
    ((List.range n).map fun i => if p i then ds.count i else 0).sum = ds.countP p := by
  induction ds with
  | nil => simp
  | cons d ds ih =>
    obtain ⟨here, later⟩ := List.forall_mem_cons.mp inRange
    have split : (fun i => if p i then (d :: ds).count i else 0) = fun i =>
        (if p i then ds.count i else 0) + if i = d ∧ p i then 1 else 0 := by
      funext i
      by_cases counted : p i = true <;> by_cases same : d = i <;>
        simp [counted, same, eq_comm]
    have one : (List.range n).count d = 1 :=
      List.count_eq_one_of_mem List.nodup_range (List.mem_range.mpr here)
    rw [split, List.sum_map_add, ih later, List.sum_map_eq_nsmul_single d, one, List.countP_cons]
    · simp
    · intro i ne _
      rw [if_neg fun h => ne h.1]

namespace Books

variable {deps : List (List Nat)} {b b' : Books}

/-! ## What the counts say -/

theorem isOpen_eq {i : Nat} {e : Entry} (found : b.jobs[i]? = some e) :
    b.isOpen i = !e.state.isTerminal := by
  rw [isOpen, stateOf_eq found]
  rfl

/-- In open books a job waits for as many dependencies as it names jobs that are not at an end. -/
theorem Tied.outstanding_eq (tied : Tied deps b) (unhalted : b.halted = none) {c : Nat} {e : Entry}
    (found : b.jobs[c]? = some e) : e.outstanding = (deps[c]?.getD []).countP b.isOpen := by
  have inRange : ∀ d ∈ deps[c]?.getD [], d < b.jobs.length := fun d =>
    tied.lt_length (List.getElem?_eq_some_iff.mp found).1
  rw [tied.outstanding c e found, ← sum_count_range b.isOpen _ inRange, places]
  congr 1
  apply List.ext_getElem?
  intro i
  rw [List.getElem?_map, List.getElem?_map]
  by_cases within : i < b.jobs.length
  · have foundI := List.getElem?_eq_getElem within
    rw [foundI, List.getElem?_range within, Option.map_some, Option.map_some, isOpen_eq foundI]
    cases ended : b.jobs[i].state.isTerminal with
    | true => simp [tied.closed unhalted i _ foundI ended]
    | false => simp [tied.consumers i _ foundI ended c]
  · have beyond : b.jobs.length ≤ i := Nat.le_of_not_lt within
    have beyond' : (List.range b.jobs.length).length ≤ i := by rwa [List.length_range]
    rw [List.getElem?_eq_none beyond, List.getElem?_eq_none beyond', Option.map_none,
      Option.map_none]

/-- The job is in the books and at an end. -/
def hasEnded (b : Books) (i : Nat) : Bool := (b.stateOf i).any (·.isTerminal)

theorem hasEnded_eq {i : Nat} {e : Entry} (found : b.jobs[i]? = some e) :
    b.hasEnded i = e.state.isTerminal := by
  rw [hasEnded, stateOf_eq found]
  rfl

theorem Tied.outstanding_eq_zero_iff (tied : Tied deps b) (unhalted : b.halted = none) {c : Nat}
    {e : Entry} (found : b.jobs[c]? = some e) :
    e.outstanding = 0 ↔ ∀ d ∈ deps[c]?.getD [], b.hasEnded d = true := by
  constructor
  · intro settled d named
    obtain ⟨x, foundx, ended⟩ := tied.ended_of_outstanding found settled d named
    rw [hasEnded_eq foundx, ended]
  · intro ended
    rw [tied.outstanding_eq unhalted found, List.countP_eq_zero]
    intro d named
    have inRange := tied.lt_length (List.getElem?_eq_some_iff.mp found).1 named
    have foundD := List.getElem?_eq_getElem inRange
    have terminal := ended d named
    rw [hasEnded_eq foundD] at terminal
    rw [isOpen_eq foundD, terminal]
    decide

/-- The queue holds as many jobs as are pending and wait for nothing. -/
theorem Sound.length_ready (sound : Sound deps b) : b.ready.length =
    b.jobs.countP fun e => e.state == .pending && e.outstanding == 0 := by
  have same : b.ready.Perm
      (b.jobs.findIdxs fun e => e.state == .pending && e.outstanding == 0) := by
    refine (List.perm_ext_iff_of_nodup sound.lined.1 List.nodup_findIdxs).mpr fun c => ?_
    rw [sound.lined.mem_iff, List.mem_findIdxs_iff_exists_getElem_pos]
    simp [List.getElem?_eq_some_iff]
  rw [same.length_eq, List.length_findIdxs]

/-- A job that is not at an end runs, may start, or waits. -/
theorem countP_live (jobs : List Entry) : (jobs.map (·.state)).countP (!·.isTerminal) =
    (jobs.map (·.state)).count .running +
      (jobs.countP fun e => e.state == .pending && e.outstanding == 0) +
      jobs.countP fun e => e.state == .pending && 0 < e.outstanding := by
  induction jobs with
  | nil => rfl
  | cons e es ih =>
    simp only [List.map_cons, List.countP_cons, List.count_cons, ih]
    cases e.state <;> cases e.outstanding <;> simp [JobState.isTerminal] <;> omega

theorem Sound.snapshot_adds_up (sound : Sound deps b) :
    b.snapshot.pending = b.running + b.snapshot.ready + b.snapshot.waiting := by
  rw [snapshot, sound.unfinished, sound.running, sound.length_ready]
  exact countP_live b.jobs

/-- All that the books count and queue up is what the states of the jobs and their dependencies
say; `deps[c]` are those of job `c`. -/
structure Balanced (deps : List (List Nat)) (b : Books) : Prop where
  running : b.running = b.states.count .running
  limited : ∀ n, b.limit = some n → b.running ≤ n.1
  finished : b.isFinished = true ↔ ∀ s ∈ b.states, s.isTerminal = true
  queued : b.halted = none → ∀ c, b.ready.count c =
    if b.stateOf c = some .pending ∧
      ∀ d ∈ deps[c]?.getD [], b.hasEnded d = true then 1 else 0
  outstanding : b.halted = none → ∀ (c : Nat) (e : Entry), b.jobs[c]? = some e →
    e.state = .pending → e.outstanding = (deps[c]?.getD []).countP b.isOpen
  halted : b.halted.isSome = true → b.ready = [] ∧ ∀ c, b.stateOf c ≠ some .pending
  snapshot : b.snapshot.pending = b.running + b.snapshot.ready + b.snapshot.waiting
  idle : b.snapshot.idleWorkers.map (· + b.running) = b.limit.toNat?

theorem Sound.isFinished_iff (sound : Sound deps b) :
    b.isFinished = true ↔ ∀ s ∈ b.states, s.isTerminal = true := by
  refine ⟨fun finished s mem => ?_, sound.finished_of_ended⟩
  rw [isFinished, sound.unfinished, beq_iff_eq, List.countP_eq_zero] at finished
  simpa using finished s mem

theorem Sound.count_ready (sound : Sound deps b) (unhalted : b.halted = none) (c : Nat) :
    b.ready.count c = if b.stateOf c = some .pending ∧
      ∀ d ∈ deps[c]?.getD [], b.hasEnded d = true then 1 else 0 := by
  have queued : c ∈ b.ready ↔
      b.stateOf c = some .pending ∧ ∀ d ∈ deps[c]?.getD [], b.hasEnded d = true := by
    rw [sound.lined.mem_iff]
    constructor
    · rintro ⟨e, found, pending, settled⟩
      exact ⟨pending ▸ stateOf_eq found,
        (sound.tied.outstanding_eq_zero_iff unhalted found).mp settled⟩
    · rintro ⟨pending, ended⟩
      obtain ⟨e, found, state⟩ := entry_of_stateOf pending
      exact ⟨e, found, state, (sound.tied.outstanding_eq_zero_iff unhalted found).mpr ended⟩
  split
  · rename_i waits
    exact List.count_eq_one_of_mem sound.lined.1 (queued.mpr waits)
  · rename_i other
    exact List.count_eq_zero_of_not_mem fun mem => other (queued.mp mem)

theorem Sound.balanced (sound : Sound deps b) : Balanced deps b where
  running := sound.running
  limited := sound.limited
  finished := sound.isFinished_iff
  queued := sound.count_ready
  outstanding := fun unhalted _ _ found _ => sound.tied.outstanding_eq unhalted found
  halted := by
    intro closed
    have settled (c : Nat) : b.stateOf c ≠ some .pending := by
      intro pending
      obtain ⟨e, found, state⟩ := entry_of_stateOf pending
      exact sound.tied.stopped closed c e found state
    refine ⟨List.eq_nil_iff_forall_not_mem.mpr fun c mem => ?_, settled⟩
    obtain ⟨e, found, pending, _⟩ := (sound.lined.mem_iff c).mp mem
    exact settled c (pending ▸ stateOf_eq found)
  snapshot := sound.snapshot_adds_up
  idle := by
    cases limit : b.limit with
    | none => rw [Books.snapshot, limit]; rfl
    | some n =>
      have kept : n.1 - b.running + b.running = n.1 := Nat.sub_add_cancel (sound.limited n limit)
      simp only [Books.snapshot, limit, Option.map_some, kept, Limit.toNat?]

/-! ## Runs of calls -/

/-- No call changes how many jobs may run at once, or whether the books go on after a failure. -/
theorem ask_settings (sound : Sound deps b) {call : Call} {answer : Answer}
    (asked : b.ask call = .ok (answer, b')) :
    b'.limit = b.limit ∧ b'.continueOnError = b.continueOnError := by
  cases sound.asked asked with
  | added added =>
    rw [added.frame]
    exact ⟨rfl, rfl⟩
  | refused refused =>
    rw [(addJob_error refused).2.2.2]
    exact ⟨rfl, rfl⟩
  | next answered => exact ⟨answered.frame.limit, answered.frame.continueOnError⟩
  | complete _ completes => exact ⟨completes.frame.limit, completes.frame.continueOnError⟩
  | ignored => exact ⟨rfl, rfl⟩
  | halt halts => exact ⟨halts.frame.limit, halts.frame.continueOnError⟩

theorem play_settings {log : List (Call × Answer)} (logged : Logged deps log b)
    (calls : List Call) (accepted : ∀ entry ∈ (b.play calls).1, entry.2.isRefused = false)
    (played : (b.play calls).2 = .ok b') :
    b'.limit = b.limit ∧ b'.continueOnError = b.continueOnError := by
  induction calls generalizing deps log b with
  | nil =>
    cases played
    exact ⟨rfl, rfl⟩
  | cons call calls ih =>
    obtain ⟨answer, b₁, eq, _, _, goesOn⟩ := logged.ask call
    rw [Books.play, eq] at accepted played
    obtain ⟨here, later⟩ := List.forall_mem_cons.mp accepted
    obtain ⟨deps₁, logged₁⟩ := goesOn here
    obtain ⟨limit, continueOnError⟩ := ih logged₁ later played
    obtain ⟨limit₁, continueOnError₁⟩ := ask_settings logged.sound eq
    exact ⟨limit.trans limit₁, continueOnError.trans continueOnError₁⟩

/-- After any calls on new books of which none was refused, the books balance and still have their
limit; and no further call takes a count below zero or looks for a job that is not there. -/
theorem calls_balance (limit : Limit) (continueOnError : Bool) (calls : List Call)
    (accepted : ∀ entry ∈ ((create limit continueOnError).play calls).1,
      entry.2.isRefused = false) :
    ∃ deps b, ((create limit continueOnError).play calls).2 = .ok b ∧ b.limit = limit ∧
      deps.length = b.jobs.length ∧
      (∀ ds j, (.add ds, .added j) ∈ ((create limit continueOnError).play calls).1 ↔
        deps[j]? = some ds) ∧
      Balanced deps b ∧ ∀ call f, b.ask call ≠ .error f := by
  have new := Logged.create limit continueOnError
  obtain ⟨deps, b, played, logged⟩ := new.play calls accepted
  refine ⟨deps, b, played, (play_settings new calls accepted played).1, logged.sound.tied.length,
    logged.added, logged.sound.balanced, fun call f failed => ?_⟩
  obtain ⟨answer, b', eq, _⟩ := logged.ask call
  rw [failed] at eq
  cases eq

/-- Two jobs run, a third waits for both, and a fourth waits for the first one, which it names
twice. -/
theorem calls_balance_waiting :
    ∃ deps b, ((create (Limit.ofNat 2) true).play
        [.add [], .add [], .add [0, 1], .add [0, 0], .next, .next]).2 = .ok b ∧
      Balanced deps b ∧ b.snapshot = ⟨4, 0, 2, some 0, some 2⟩ := by
  have accepted : ∀ entry ∈ ((create (Limit.ofNat 2) true).play
      [.add [], .add [], .add [0, 1], .add [0, 0], .next, .next]).1,
      entry.2.isRefused = false := by
    decide +kernel
  have counts : ((create (Limit.ofNat 2) true).play
      [.add [], .add [], .add [0, 1], .add [0, 0], .next, .next]).2.map snapshot =
        .ok ⟨4, 0, 2, some 0, some 2⟩ := by
    decide +kernel
  obtain ⟨deps, b, played, _, _, _, balanced, _⟩ := calls_balance (Limit.ofNat 2) true _ accepted
  rw [played] at counts
  exact ⟨deps, b, played, balanced, Except.ok.inj counts⟩

end Books

end KeyFlow
