import Mathlib.Logic.Relation
import KeyFlow.Run.Course

/-!
A run, one move at a time. A step of the machine does several things at once; here each of them is
a move of its own, so that an invariant has to be looked at for each move once, and holds after
every step. A body runs at the start of a step or not at all.
-/

namespace KeyFlow

namespace Machine

variable {σ : Type} {m m' : Machine σ}

/-- What a body leaves behind when it paused, apart from the jobs that its cancellation wakes. -/
def left (m : Machine σ) (job : Nat) (pause : Pause σ) (w : World σ) : Machine σ :=
  { m with
    slots := m.slots.set job (slotAfter m.clock pause)
    shared := w.shared
    cancelled := w.cancelled
    selfCancelled :=
      if w.ownCancelled then job :: m.selfCancelled else m.selfCancelled }.conclude job pause

/-- The moves of a run in which no body runs. -/
inductive Quiet : Machine σ → Machine σ → Prop where
  | turned (m : Machine σ) : Quiet m { m with busy := true }
  /-- The scheduler waits for a job that it started. -/
  | rested {m : Machine σ} (alive : m.tokens.isEmpty = false) : Quiet m { m with busy := false }
  | passed (m : Machine σ) (time : Nat) : Quiet m { m with clock := max m.clock time }
  | sampled (m : Machine σ) : Quiet m m.sample
  /-- The cancellation from outside arrives. -/
  | arrived {m : Machine σ} {time : Nat} (planned : m.cancelAt = some time) :
    Quiet m { m with cancelAt := none, cancelled := true }
  | woken (m : Machine σ) (job : Nat) : Quiet m (m.wake job)
  /-- The job at the head of the queue has no body to run on. -/
  | passedOver {m : Machine σ} {job : Nat} {rest : List Nat} (queue : m.queue = job :: rest)
    (idle : ∀ body, m.slots[job]? ≠ some (.queued body)) : Quiet m { m with queue := rest }
  | noticed {m : Machine σ} {books : Books} (cancelled : m.cancelled = true)
    (halted : m.books.halt .cancelled = .ok books) : Quiet m { m with seen := true, books }
  | waited {m : Machine σ} {books : Books} (next : m.books.nextDispatch = .ok (none, books)) :
    Quiet m { m with books }
  | dispatched {m : Machine σ} {books : Books} {job : Nat} {body : JobBody σ}
    (next : m.books.nextDispatch = .ok (some job, books))
    (slot : m.slots[job]? = some (.fresh body)) :
    Quiet m { m with
      books
      slots := m.slots.set job (.queued body)
      queue := m.queue ++ [job]
      tokens := m.tokens ++ [job]
      timeline := m.timeline ++ [.started job] }
  /-- The next job has no body to start, and fails. -/
  | forgone {m : Machine σ} {books books' : Books} {job : Nat}
    (next : m.books.nextDispatch = .ok (some job, books))
    (gone : ∀ body, m.slots[job]? ≠ some (.fresh body))
    (failed : books.complete job .failed = .ok books') : Quiet m { m with books := books' }
  | recorded {m : Machine σ} {books : Books} {job : Nat} {c : Conclusion}
    {rest : List (Nat × Conclusion)} (conclusions : m.conclusions = (job, c) :: rest)
    (complete : m.books.complete job c.outcome = .ok books) :
    Quiet m { m with
      conclusions := rest
      busy := true
      books
      errors := m.errors ++ c.error?.toList
      timeline := m.timeline ++ [.recorded job c.outcome] }

/-- It is the turn of the body of this job. -/
structure Polls (m : Machine σ) (job : Nat) (rest : List Nat) (body : JobBody σ) : Prop where
  queue : m.queue = job :: rest
  slot : m.slots[job]? = some (.queued body)

/-- The machine after the body at the head of the queue ran on, up to its next pause. -/
def ranOn (m : Machine σ) (job : Nat) (rest : List Nat) (body : JobBody σ) : Machine σ :=
  left { m with queue := rest } job (body.advance (m.world job)).1 (body.advance (m.world job)).2

inductive Move (m : Machine σ) : Machine σ → Prop where
  | quiet {m' : Machine σ} (quiet : Quiet m m') : Move m m'
  | polled {job : Nat} {rest : List Nat} {body : JobBody σ} (polls : m.Polls job rest body) :
    Move m (m.ranOn job rest body)

/-- The left machine comes to the right one by quiet moves. -/
def Quietly : Machine σ → Machine σ → Prop := Relation.ReflTransGen Quiet

/-- The left machine comes to the right one by moves. -/
def Reaches : Machine σ → Machine σ → Prop := Relation.ReflTransGen Move

namespace Quietly

theorem refl (m : Machine σ) : Quietly m m := Relation.ReflTransGen.refl

theorem single (quiet : Quiet m m') : Quietly m m' := Relation.ReflTransGen.single quiet

theorem trans {m₁ m₂ m₃ : Machine σ} (h : Quietly m₁ m₂) (h' : Quietly m₂ m₃) : Quietly m₁ m₃ :=
  Relation.ReflTransGen.trans h h'

/-- What every quiet move keeps is kept all the way. -/
theorem keeps {P : Machine σ → Prop} (kept : ∀ m m' : Machine σ, P m → Quiet m m' → P m')
    (h : Quietly m m') (start : P m) : P m' := by
  induction h with
  | refl => exact start
  | tail _ quiet ih => exact kept _ _ ih quiet

theorem reaches (h : Quietly m m') : Reaches m m' :=
  Relation.ReflTransGen.mono (fun _ _ quiet => .quiet quiet) m m' h

end Quietly

namespace Reaches

theorem refl (m : Machine σ) : Reaches m m := Relation.ReflTransGen.refl

theorem single (move : Move m m') : Reaches m m' := Relation.ReflTransGen.single move

theorem trans {m₁ m₂ m₃ : Machine σ} (h : Reaches m₁ m₂) (h' : Reaches m₂ m₃) : Reaches m₁ m₃ :=
  Relation.ReflTransGen.trans h h'

/-- What every move keeps is kept all the way. -/
theorem keeps {P : Machine σ → Prop} (kept : ∀ m m' : Machine σ, P m → Move m m' → P m')
    (h : Reaches m m') (start : P m) : P m' := by
  induction h with
  | refl => exact start
  | tail _ move ih => exact kept _ _ ih move

end Reaches

/-! ## Bodies -/

theorem quietly_wakeAll (jobs : List Nat) (m : Machine σ) : Quietly m (jobs.foldl wake m) := by
  induction jobs generalizing m with
  | nil => exact .refl m
  | cons job jobs ih => exact .trans (.single (.woken m job)) (ih (m.wake job))

theorem quietly_wakeWaiters (m : Machine σ) : Quietly m m.wakeWaiters := quietly_wakeAll _ m

theorem conclude_wake (m : Machine σ) (i job : Nat) (pause : Pause σ) :
    (m.wake i).conclude job pause = (m.conclude job pause).wake i := by
  cases pause with
  | ended c =>
    simp only [conclude, wake]
    split <;> rfl
  | asleep | awaiting => rfl

theorem conclude_wakeAll (jobs : List Nat) (m : Machine σ) (job : Nat) (pause : Pause σ) :
    (jobs.foldl wake m).conclude job pause = jobs.foldl wake (m.conclude job pause) := by
  induction jobs generalizing m with
  | nil => rfl
  | cons i jobs ih => rw [List.foldl_cons, List.foldl_cons, ih, conclude_wake]

/-- A body that pauses wakes the jobs that its cancellation reaches. -/
theorem leave_eq_wakeAll (m : Machine σ) (job : Nat) (pause : Pause σ) (w : World σ) :
    ∃ jobs : List Nat, m.leave job pause w = jobs.foldl wake (m.left job pause w) := by
  unfold leave
  simp only
  split
  · unfold wakeWaiters
    rw [conclude_wakeAll]
    exact ⟨_, rfl⟩
  · exact ⟨[], rfl⟩

theorem quietly_leave (m : Machine σ) (job : Nat) (pause : Pause σ) (w : World σ) :
    Quietly (m.left job pause w) (m.leave job pause w) := by
  obtain ⟨jobs, woken⟩ := m.leave_eq_wakeAll job pause w
  rw [woken]
  exact quietly_wakeAll jobs _

theorem quietly_poll {job : Nat} {rest : List Nat} {body : JobBody σ}
    (polls : m.Polls job rest body) :
    Quietly (m.ranOn job rest body) (poll { m with queue := rest } job) := by
  rw [poll]
  simp only [polls.slot]
  exact quietly_leave { m with queue := rest } job _ _

theorem poll_cases {job : Nat} {rest : List Nat} (queue : m.queue = job :: rest) :
    Quietly m (poll { m with queue := rest } job) ∨ ∃ body, m.Polls job rest body ∧
      Quietly (m.ranOn job rest body) (poll { m with queue := rest } job) := by
  unfold poll
  split
  · rename_i body slot
    exact .inr ⟨body, ⟨queue, slot⟩, quietly_leave _ job _ _⟩
  · rename_i idle
    exact .inl (.single (.passedOver queue idle))

/-! ## The scheduler's turn -/

theorem quietly_notice (h : m.notice = .ok m') : Quietly m m' := by
  unfold notice at h
  split at h
  · rename_i unseen
    split at h
    · cases h
    · rename_i books halted
      cases h
      rw [Bool.and_eq_true] at unseen
      exact .single (.noticed unseen.1 halted)
  · cases h
    exact .refl m

/-- The scheduler starts jobs until the books have no next one. -/
theorem quietly_dispatchAll (h : m.dispatchAll = .ok m') :
    ∃ m₁ books, Quietly m m₁ ∧ m₁.books.nextDispatch = .ok (none, books) ∧
      m' = { m₁ with books } := by
  fun_induction dispatchAll m with
  | case1 | case4 => cases h
  | case2 m books next =>
    cases h
    exact ⟨m, books, .refl m, next, rfl⟩
  | case3 m job books next body slot ih =>
    obtain ⟨m₁, books₁, rest, noNext, eq⟩ := ih h
    exact ⟨m₁, books₁, .trans (.single (.dispatched next slot)) rest, noNext, eq⟩
  | case5 m job books next books₁ failed gone ih =>
    obtain ⟨m₁, books₂, rest, noNext, eq⟩ := ih h
    exact ⟨m₁, books₂, .trans (.single (.forgone next gone failed)) rest, noNext, eq⟩

theorem quietly_record {job : Nat} {c : Conclusion} {rest : List (Nat × Conclusion)}
    (waiting : m.conclusions = (job, c) :: rest)
    (h : record { m with conclusions := rest, busy := true } job c = .ok m') : Quietly m m' := by
  unfold record at h
  split at h
  · cases h
  · rename_i books complete
    cases h
    exact .single (.recorded waiting complete)

theorem quietly_serve (h : m.serve = .ok m') : Quietly m m' := by
  unfold serve at h
  split at h
  · cases h
  · split at h
    · rename_i job c rest waiting
      split at h
      · cases h
      · rename_i m₁ recorded
        cases h
        exact quietly_record waiting recorded
    · split at h
      · cases h
      · rename_i alive
        split at h
        · cases h
          exact .trans (.single (.sampled m)) (.single (.turned m.sample))
        · split at h
          · cases h
          · cases h
            exact .single (.rested (by simpa using alive))

theorem quietly_round (h : m.round = .ok m') : Quietly m m' := by
  unfold round at h
  split at h
  · cases h
  · rename_i m₁ noticed
    split at h
    · cases h
    · rename_i m₂ dispatched
      obtain ⟨m₃, books, reached, noNext, rfl⟩ := quietly_dispatchAll dispatched
      exact .trans (quietly_notice noticed)
        (.trans reached (.trans (.single (.waited noNext)) (quietly_serve h)))

/-! ## The clock -/

theorem quietly_reach {time : Nat} (h : m.reach time = .ok m') : Quietly m m' := by
  refine .trans (.single (.passed m time)) ?_
  unfold reach at h
  simp only at h
  split at h
  · cases h
  · split at h
    · rename_i planned
      cases h
      exact .trans (.single (.arrived planned)) (quietly_wakeWaiters _)
    · split at h
      · rename_i job found
        cases h
        exact .single (.woken _ job)
      · cases h

theorem quietly_advanceClock (h : m.advanceClock = .ok m') : Quietly m m' := by
  unfold advanceClock at h
  split at h
  · cases h
  · split at h
    · rename_i s sampled
      split at h
      · cases h
        exact .single (.passed m s.due)
      · exact quietly_reach h
    · exact quietly_reach h

/-! ## Runs -/

/-- A step is quiet, or the body at the head of the queue runs on first. -/
theorem step_cases (h : m.step = .ok m') : Quietly m m' ∨
    ∃ job rest body, m.busy = false ∧ m.Polls job rest body ∧
      Quietly (m.ranOn job rest body) m' := by
  unfold step at h
  split at h
  · exact .inl (quietly_round h)
  · rename_i resting
    split at h
    · rename_i job rest queue
      cases h
      refine (poll_cases queue).imp_right ?_
      rintro ⟨body, polls, quietly⟩
      exact ⟨job, rest, body, by simpa using resting, polls, quietly⟩
    · split at h
      · exact .inl (quietly_round h)
      · exact .inl (quietly_advanceClock h)

/-- A body whose turn it is runs on. -/
theorem step_of_polls (resting : m.busy = false) {job : Nat} {rest : List Nat} {body : JobBody σ}
    (polls : m.Polls job rest body) :
    ∃ m', m.step = .ok m' ∧ Quietly (m.ranOn job rest body) m' := by
  refine ⟨_, ?_, quietly_poll polls⟩
  rw [step, resting]
  simp only [Bool.false_eq_true, if_false, polls.queue]

theorem reaches_step (h : m.step = .ok m') : Reaches m m' := by
  rcases step_cases h with quietly | ⟨job, rest, body, _, polls, quietly⟩
  · exact quietly.reaches
  · exact .trans (.single (.polled polls)) quietly.reaches

/-- The left machine comes to the right one by steps. -/
def Comes : Machine σ → Machine σ → Prop := Relation.ReflTransGen fun m m' => m.step = .ok m'

theorem Comes.reaches (h : Comes m m') : Reaches m m' := by
  induction h with
  | refl => exact .refl m
  | tail _ step ih => exact .trans ih (reaches_step step)

end Machine

end KeyFlow
