import KeyFlow.Fault
import KeyFlow.Jobs.State

/-!
The books of a set of jobs: for each job how many of its dependencies are outstanding and which
jobs wait for it, and the queue of those that may start. Jobs start in the order in which they
become ready, as far as the limit allows; a job behind a dependency that did not succeed is
skipped, and so are those behind it.
-/

namespace KeyFlow

/-- One job in the books. -/
structure Entry where
  /-- Jobs that wait for this one, one entry for each time they name it. -/
  consumers : List Nat := []
  outstanding : Nat := 0
  state : JobState := .pending
  /-- Set by the first dependency that ends without success. -/
  blocked : Option SkipCause := none
  deriving DecidableEq, Repr

structure Books where
  jobs : List Entry := []
  ready : List Nat := []
  running : Nat := 0
  /-- How many jobs are not at an end. -/
  unfinished : Nat := 0
  limit : Limit := none
  continueOnError : Bool := false
  halted : Option SkipCause := none
  deriving DecidableEq, Repr

/-- A job named a dependency that is not in the books. -/
structure UnknownDependency where
  job : Nat
  dependency : Nat
  deriving DecidableEq, Repr

def UnknownDependency.message (u : UnknownDependency) : String :=
  s!"job {u.job} depends on job {u.dependency}, which was not enqueued before it"

namespace Books

def create (limit : Limit) (continueOnError : Bool) : Books := { limit, continueOnError }

def isFinished (b : Books) : Bool := b.unfinished == 0

def isHalted (b : Books) : Bool := b.halted.isSome

def stateOf (b : Books) (i : Nat) : Option JobState := b.jobs[i]?.map (·.state)

def states (b : Books) : List JobState := b.jobs.map (·.state)

/-- All workers are taken. -/
def isFull (b : Books) : Bool :=
  match b.limit with
  | some n => n.1 ≤ b.running
  | none => false

def snapshot (b : Books) : Snapshot where
  pending := b.unfinished
  ready := b.ready.length
  waiting := b.jobs.countP fun e => e.state == .pending && 0 < e.outstanding
  idleWorkers := b.limit.map fun n => n.1 - b.running
  limit := b.limit.toNat?

/-- Signs a job in the making up with its dependencies, one after another. A dependency that is not
in the books ends this; the ones before it keep what they noted. -/
def signUp (index : Nat) : List Nat → Entry → Books → Except UnknownDependency Entry × Books
  | [], e, b => (.ok e, b)
  | d :: ds, e, b =>
    match b.jobs[d]? with
    | none => (.error ⟨index, d⟩, b)
    | some dep =>
      if dep.state.isTerminal then
        signUp index ds { e with blocked := e.blocked.or dep.state.blocks } b
      else
        signUp index ds { e with outstanding := e.outstanding + 1 }
          { b with jobs := b.jobs.set d { dep with consumers := dep.consumers ++ [index] } }

/-- Enters a job after all its dependencies are noted. In halted books it is skipped at once. -/
def enter (b : Books) (e : Entry) : Books :=
  match b.halted with
  | some cause =>
    { b with jobs := b.jobs ++ [{ e with state := .skipped (e.blocked.getD cause) }] }
  | none =>
    { b with
      jobs := b.jobs ++ [e]
      unfinished := b.unfinished + 1
      ready := if e.outstanding = 0 then b.ready ++ [b.jobs.length] else b.ready }

/-- Adds a job behind the given ones and answers with its index. -/
def addJob (b : Books) (deps : List Nat) : Except UnknownDependency Nat × Books :=
  match signUp b.jobs.length deps {} b with
  | (.error u, b) => (.error u, b)
  | (.ok e, b) => (.ok b.jobs.length, b.enter e)

/-- Tells a consumer that one of its dependencies is at an end. -/
def release (cause : Option SkipCause) (b : Books) (consumer : Nat) : Except Fault Books :=
  match b.jobs[consumer]? with
  | none => .error (.missingJob consumer)
  | some e =>
    match e.outstanding with
    | 0 => .error .countBelowZero
    | n + 1 =>
      .ok { b with
        jobs := b.jobs.set consumer
          { e with blocked := e.blocked.or cause, outstanding := n }
        ready := if n = 0 ∧ e.state = .pending then b.ready ++ [consumer] else b.ready }

def releaseAll (cause : Option SkipCause) : List Nat → Books → Except Fault Books
  | [], b => .ok b
  | c :: cs, b =>
    match b.release cause c with
    | .error f => .error f
    | .ok b => releaseAll cause cs b

/-- Brings a job to an end and releases the jobs that wait for it. -/
def finish (b : Books) (i : Nat) (state : JobState) : Except Fault Books :=
  match b.jobs[i]?, b.unfinished with
  | none, _ => .error (.missingJob i)
  | some _, 0 => .error .countBelowZero
  | some e, n + 1 =>
    releaseAll state.blocks e.consumers
      { b with jobs := b.jobs.set i { e with state, consumers := [] }, unfinished := n }

/-- Entries in all lists of consumers. -/
def waitingPlaces : List Entry → Nat
  | [] => 0
  | e :: es => e.consumers.length + waitingPlaces es

/-- Places still taken in the ready queue and in the lists of consumers; each skip frees one. -/
def slots (b : Books) : Nat := b.ready.length + waitingPlaces b.jobs

theorem waitingPlaces_set (jobs : List Entry) (i : Nat) (x y : Entry) (h : jobs[i]? = some x) :
    waitingPlaces (jobs.set i y) + x.consumers.length =
      waitingPlaces jobs + y.consumers.length := by
  induction jobs generalizing i with
  | nil => simp at h
  | cons a as ih =>
    cases i with
    | zero =>
      simp only [List.getElem?_cons_zero, Option.some.injEq] at h
      subst h
      simp only [List.set_cons_zero, waitingPlaces]
      omega
    | succ i =>
      simp only [List.getElem?_cons_succ] at h
      have := ih i h
      simp only [List.set_cons_succ, waitingPlaces]
      omega

theorem slots_release {cause : Option SkipCause} {b b' : Books} {c : Nat}
    (h : b.release cause c = .ok b') : b'.slots ≤ b.slots + 1 := by
  unfold release at h
  split at h
  · cases h
  · rename_i e found
    split at h
    · cases h
    · rename_i n _
      cases h
      have sum := waitingPlaces_set b.jobs c e
        { e with blocked := e.blocked.or cause, outstanding := n } found
      simp only [slots] at sum ⊢
      split
      · simp only [List.length_append, List.length_singleton]
        omega
      · omega

theorem slots_releaseAll {cause : Option SkipCause} {cs : List Nat} {b b' : Books}
    (h : releaseAll cause cs b = .ok b') : b'.slots ≤ b.slots + cs.length := by
  induction cs generalizing b with
  | nil => cases h; simp
  | cons c cs ih =>
    unfold releaseAll at h
    split at h
    · cases h
    · rename_i b₁ first
      have one := slots_release first
      have rest := ih h
      simp
      omega

theorem slots_finish {b b' : Books} {i : Nat} {state : JobState}
    (h : b.finish i state = .ok b') : b'.slots ≤ b.slots := by
  unfold finish at h
  split at h
  · cases h
  · cases h
  · rename_i e n found _
    have all := slots_releaseAll h
    have sum := waitingPlaces_set b.jobs i e
      { e with state := state, consumers := [] } found
    simp only [slots, List.length_nil] at all sum ⊢
    omega

/-- Takes jobs from the ready queue until one may start. -/
def takeReady (b : Books) : Except Fault (Option Nat × Books) :=
  match _queue : b.ready with
  | [] => .ok (none, b)
  | i :: rest =>
    match b.jobs[i]? with
    | none => .error (.missingJob i)
    | some e =>
      match e.blocked with
      | none =>
        .ok (some i,
          { b with
            ready := rest
            jobs := b.jobs.set i { e with state := .running }
            running := b.running + 1 })
      | some cause =>
        match _done : finish { b with ready := rest } i (.skipped cause) with
        | .error f => .error f
        | .ok b => b.takeReady
termination_by b.slots
decreasing_by
  have le := slots_finish _done
  simp only [slots] at le ⊢
  rw [_queue]
  simp
  omega

theorem slots_takeReady {b b' : Books} {i : Nat} (h : b.takeReady = .ok (some i, b')) :
    b'.slots < b.slots := by
  fun_induction takeReady b with
  | case1 => simp at h
  | case2 => simp at h
  | case3 b j rest queue e found free =>
    simp only [Except.ok.injEq, Prod.mk.injEq] at h
    obtain ⟨_, rfl⟩ := h
    have sum := waitingPlaces_set b.jobs j e { e with state := .running } found
    simp only [slots, queue, List.length_cons] at sum ⊢
    omega
  | case4 => simp at h
  | case5 b j rest queue e found cause blocked b₁ done ih =>
    have le := slots_finish done
    have lt := ih h
    simp only [slots, queue, List.length_cons] at le lt ⊢
    omega

/-- The next job to start, if the books are open and a worker is free. -/
def nextDispatch (b : Books) : Except Fault (Option Nat × Books) :=
  if b.isHalted || b.isFull then .ok (none, b) else b.takeReady

theorem slots_nextDispatch {b b' : Books} {i : Nat} (h : b.nextDispatch = .ok (some i, b')) :
    b'.slots < b.slots := by
  unfold nextDispatch at h
  split at h
  · simp at h
  · exact slots_takeReady h

/-- Closes the books: no job starts any more, and those that did not start are skipped. -/
def halt (b : Books) (cause : SkipCause) : Except Fault Books :=
  match b.halted with
  | some _ => .ok b
  | none =>
    let unstarted := b.jobs.countP (·.state == .pending)
    if b.unfinished < unstarted then .error .countBelowZero
    else .ok { b with
      halted := some cause
      ready := []
      unfinished := b.unfinished - unstarted
      jobs := b.jobs.map fun e =>
        if e.state = .pending then { e with state := .skipped (e.blocked.getD cause) } else e }

theorem waitingPlaces_map {f : Entry → Entry} (same : ∀ e, (f e).consumers = e.consumers)
    (jobs : List Entry) : waitingPlaces (jobs.map f) = waitingPlaces jobs := by
  induction jobs with
  | nil => rfl
  | cons e es ih => rw [List.map_cons, waitingPlaces, waitingPlaces, same, ih]

theorem slots_halt {b b' : Books} {cause : SkipCause} (h : b.halt cause = .ok b') :
    b'.slots ≤ b.slots := by
  unfold halt at h
  split at h
  · cases h
    exact Nat.le_refl _
  · simp only at h
    split at h
    · cases h
    · cases h
      rw [slots, slots, waitingPlaces_map fun e => by split <;> rfl]
      exact Nat.add_le_add_right (Nat.zero_le _) _

/-- Notes the outcome of a running job. The first failure halts books that do not go on. -/
def complete (b : Books) (i : Nat) (outcome : Outcome) : Except Fault Books :=
  match b.stateOf i with
  | some .running =>
    match b.running with
    | 0 => .error .countBelowZero
    | n + 1 =>
      match finish { b with running := n } i outcome.state with
      | .error f => .error f
      | .ok b =>
        if outcome = .failed ∧ !b.continueOnError then b.halt .flowFailed else .ok b
  | _ => .ok b

theorem slots_complete {b b' : Books} {i : Nat} {outcome : Outcome}
    (h : b.complete i outcome = .ok b') : b'.slots ≤ b.slots := by
  unfold complete at h
  split at h
  · split at h
    · cases h
    · split at h
      · cases h
      · rename_i n _ _ b₁ finished
        have first : b₁.slots ≤ b.slots := slots_finish (b := { b with running := n }) finished
        split at h
        · exact Nat.le_trans (slots_halt h) first
        · cases h
          exact first
  · cases h
    exact Nat.le_refl _

end Books

end KeyFlow
